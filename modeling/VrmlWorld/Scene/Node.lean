/-
  VrmlWorld/Scene/Node.lean
  =========================
  **The nodes of a scene.**

  Each kind of node is a record of its fields with the values that hold when a
  file does not mention them, and `NodeKind` is the closed choice among the
  records. Children are not part of a kind: a stored node is a kind, a list of
  children, and perhaps a name (see `Node`), so the same kind serves stored
  nodes, written documents and unfolded scenes.

  Colors of a material stay empty unless a file gives them, because a material
  only overwrites what it mentions.
-/
import VrmlWorld.Geometry.Matrix
import VrmlWorld.Location

namespace VrmlWorld

open VrmlWorld.Geometry

/-! ### Grouping nodes -/

/-- What a plain group keeps from its later siblings. -/
inductive Grouping where
  /-- Keeps properties and transforms to its children. -/
  | separator
  /-- Lets properties through to later siblings. -/
  | group
  /-- Keeps only transforms to its children. -/
  | transformSeparator
deriving DecidableEq, Repr

/-- A group of which a number selects the child to show. -/
structure Switch where
  whichChild : Int := -1
deriving DecidableEq, Repr

def Switch.all : Int := -3

/-- A group of which the viewer's distance selects the child to show. -/
structure Lod where
  /-- Distances at which the next child takes over. -/
  range : List Float32 := []
  /-- The point that distances are measured from. -/
  center : Vec3 := .zero
deriving DecidableEq, Repr

/-- How a link reports the point that was picked. -/
inductive AnchorMap where
  | none
  /-- The point is appended to the target as a query. -/
  | point
deriving DecidableEq, Repr

/-- A link: the target of everything below it. -/
structure Anchor where
  url : String := ""
  description : String := ""
  map : AnchorMap := .none
deriving DecidableEq, Repr

/-- How far the document behind an inline has come. -/
inductive InlineStatus where
  /-- Not yet asked for. -/
  | pending
  /-- Asked for and not yet there. -/
  | loading
  /-- Its nodes are the children of the inline. -/
  | loaded
  /-- Not available; it is not asked for again. -/
  | failed
deriving DecidableEq, Repr

/-- Another document in the place of a node. -/
structure Inline where
  url : String := ""
  bboxSize : Vec3 := .zero
  bboxCenter : Vec3 := .zero
  status : InlineStatus := .pending
  /-- Where the document came from, once it is loaded. -/
  location : Option Location := none
deriving DecidableEq, Repr

/-! ### Property nodes -/

/-- A change of coordinates in five steps. -/
structure Transform where
  translation : Vec3 := .zero
  rotation : Vec4 := ⟨0, 0, 1, 0⟩
  scaleFactor : Vec3 := ⟨1, 1, 1⟩
  scaleOrientation : Vec4 := ⟨0, 0, 1, 0⟩
  /-- The point that rotation and scaling leave in place. -/
  center : Vec3 := .zero
deriving DecidableEq, Repr

/-- The matrix of a transform: scaling along the turned axes, rotation, both
    about the center, then translation. -/
def Transform.matrix (t : Transform) : Mat4 :=
  let turned := Mat4.rotation t.scaleOrientation
  Mat4.translation t.translation * Mat4.translation t.center * Mat4.rotation t.rotation
    * turned * Mat4.scaling t.scaleFactor * turned.transpose * Mat4.translation (-t.center)

/-- The colors that a file gives for the shapes that follow. -/
structure Material where
  diffuse : Array Vec3 := #[]
  ambient : Array Vec3 := #[]
  specular : Array Vec3 := #[]
  emissive : Array Vec3 := #[]
  shininess : Array Float32 := #[]
  transparency : Array Float32 := #[]
deriving DecidableEq, Repr

/-- What a texture does beyond its edges. -/
inductive TextureWrap where
  | tiled
  | clamped
deriving DecidableEq, Repr

/-- The image for the shapes that follow; an empty file name takes it away. -/
structure Texture2 where
  filename : String := ""
  wrapS : TextureWrap := .tiled
  wrapT : TextureWrap := .tiled
deriving DecidableEq, Repr

structure Texture2Transform where
  translation : Vec2 := .zero
  rotation : Float32 := 0
  scaleFactor : Vec2 := ⟨1, 1⟩
  center : Vec2 := .zero
deriving DecidableEq, Repr

/-- The matrix of a texture transform: scaling and rotation about the center,
    then translation. -/
def Texture2Transform.matrix (t : Texture2Transform) : Mat4 :=
  Mat4.ofPlane <| Mat3.translation (t.translation + t.center) * Mat3.rotation t.rotation
    * Mat3.scaling t.scaleFactor * Mat3.translation (-t.center)

/-- How values of a list are shared out over a shape. -/
inductive Binding where
  | default
  | overall
  | perPart
  | perPartIndexed
  | perFace
  | perFaceIndexed
  | perVertex
  | perVertexIndexed
deriving DecidableEq, Repr

/-- In which sense the corners of a face follow each other. -/
inductive VertexOrdering where
  | unknown
  | clockwise
  | counterClockwise
deriving DecidableEq, Repr

/-- What is known about the shapes that follow. -/
structure ShapeHints where
  vertexOrdering : VertexOrdering := .unknown
  solid : Bool := false
  convex : Bool := true
  creaseAngle : Float32 := 0.5
deriving DecidableEq, Repr

/-- The typefaces that lettering may be set in. -/
inductive FontFamily where
  | serif
  | sans
  | typewriter
deriving DecidableEq, Repr

inductive FontCut where
  | regular
  | bold
  | italic
deriving DecidableEq, Repr

/-- The lettering of the texts that follow. -/
structure FontStyle where
  size : Float32 := 10
  family : FontFamily := .serif
  style : FontCut := .regular
deriving DecidableEq, Repr

/-! ### Lights and cameras -/

inductive LightKind where
  | directional (direction : Vec3)
  | point (location : Vec3)
  | spot (location direction : Vec3) (dropOffRate cutOffAngle : Float32)
deriving DecidableEq, Repr

structure LightNode where
  on : Bool := true
  intensity : Float32 := 1
  color : Vec3 := ⟨1, 1, 1⟩
  kind : LightKind
deriving DecidableEq, Repr

inductive CameraProjection where
  | perspective (heightAngle : Float32)
  | orthographic (height : Float32)
deriving DecidableEq, Repr

/-- A place to look at the scene from. -/
structure CameraNode where
  position : Vec3 := ⟨0, 0, 1⟩
  orientation : Vec4 := ⟨0, 0, 1, 0⟩
  focalDistance : Float32 := 5
  projection : CameraProjection
deriving DecidableEq, Repr

/-! ### Shapes -/

structure Cube where
  width : Float32 := 2
  height : Float32 := 2
  depth : Float32 := 2
deriving DecidableEq, Repr

def Cube.halfExtents (cube : Cube) : Vec3 := (⟨cube.width, cube.height, cube.depth⟩ : Vec3).scale 0.5

structure Sphere where
  radius : Float32 := 1
deriving DecidableEq, Repr

/-- Which parts of a cone are drawn. -/
structure ConeParts where
  sides : Bool
  bottom : Bool
deriving DecidableEq, Repr

namespace ConeParts

def all : ConeParts := ⟨true, true⟩

def union (a b : ConeParts) : ConeParts := ⟨a.sides || b.sides, a.bottom || b.bottom⟩

end ConeParts

structure Cone where
  parts : ConeParts := .all
  bottomRadius : Float32 := 1
  height : Float32 := 2
deriving DecidableEq, Repr

/-- Which parts of a cylinder are drawn. -/
structure CylinderParts where
  sides : Bool
  top : Bool
  bottom : Bool
deriving DecidableEq, Repr

namespace CylinderParts

def all : CylinderParts := ⟨true, true, true⟩

def union (a b : CylinderParts) : CylinderParts :=
  ⟨a.sides || b.sides, a.top || b.top, a.bottom || b.bottom⟩

end CylinderParts

structure Cylinder where
  parts : CylinderParts := .all
  radius : Float32 := 1
  height : Float32 := 2
deriving DecidableEq, Repr

/-- Faces or lines through the current coordinates. A negative entry of
    `coordIndex` ends a face or line. -/
structure IndexedShape where
  coordIndex : Array Int := #[]
  materialIndex : Array Int := #[]
  normalIndex : Array Int := #[]
  textureCoordIndex : Array Int := #[]
deriving DecidableEq, Repr

/-- A range of the current coordinates; a negative count means all that remain. -/
structure PointSet where
  startIndex : Int := 0
  numPoints : Int := -1
deriving DecidableEq, Repr

/-- Where the lines of a text stand relative to the origin. -/
inductive Justification where
  | left
  | center
  | right
deriving DecidableEq, Repr

structure AsciiText where
  strings : List String := []
  /-- The distance of two lines as a multiple of the font size. -/
  spacing : Float32 := 1
  justification : Justification := .left
  width : List Float32 := []
deriving DecidableEq, Repr

/-! ### The choice -/

inductive NodeKind where
  | group (grouping : Grouping)
  | switch (switch : Switch)
  | lod (lod : Lod)
  | anchor (anchor : Anchor)
  | inline (inline : Inline)
  | transform (transform : Transform)
  | matrixTransform (matrix : Mat4)
  | material (material : Material)
  | texture2 (texture : Texture2)
  | texture2Transform (transform : Texture2Transform)
  | textureCoordinate2 (points : Array Vec2)
  | coordinate3 (points : Array Vec3)
  | normal (vectors : Array Vec3)
  | normalBinding (binding : Binding)
  | materialBinding (binding : Binding)
  | shapeHints (hints : ShapeHints)
  | light (light : LightNode)
  | camera (camera : CameraNode)
  | cube (cube : Cube)
  | sphere (sphere : Sphere)
  | cone (cone : Cone)
  | cylinder (cylinder : Cylinder)
  | indexedFaceSet (shape : IndexedShape)
  | indexedLineSet (shape : IndexedShape)
  | pointSet (points : PointSet)
  | fontStyle (font : FontStyle)
  | asciiText (text : AsciiText)
  | info (string : String)
  /-- A placeholder for a node of a type that is not known. -/
  | unknown (typeName : String)
deriving DecidableEq, Repr

namespace NodeKind

def isGroup : NodeKind → Bool
  | group _ | switch _ | lod _ | anchor _ | inline _ => true
  | _ => false

/-- Whether leaving a node of this kind brings back the properties that held
    on entering it. The transform comes back on leaving any group. -/
def restoresState : NodeKind → Bool
  | .group grouping => grouping == .separator
  | anchor _ | inline _ => true
  | _ => false

def isShape : NodeKind → Bool
  | cube _ | sphere _ | cone _ | cylinder _ | indexedFaceSet _ | indexedLineSet _ | pointSet _
  | asciiText _ => true
  | _ => false

def typeName : NodeKind → String
  | group .separator => "Separator"
  | group .group => "Group"
  | group .transformSeparator => "TransformSeparator"
  | switch _ => "Switch"
  | lod _ => "LOD"
  | anchor _ => "WWWAnchor"
  | inline _ => "WWWInline"
  | transform _ => "Transform"
  | matrixTransform _ => "MatrixTransform"
  | material _ => "Material"
  | texture2 _ => "Texture2"
  | texture2Transform _ => "Texture2Transform"
  | textureCoordinate2 _ => "TextureCoordinate2"
  | coordinate3 _ => "Coordinate3"
  | normal _ => "Normal"
  | normalBinding _ => "NormalBinding"
  | materialBinding _ => "MaterialBinding"
  | shapeHints _ => "ShapeHints"
  | .light source =>
      match source.kind with
      | .directional _ => "DirectionalLight"
      | .point _ => "PointLight"
      | .spot .. => "SpotLight"
  | .camera view =>
      match view.projection with
      | .perspective _ => "PerspectiveCamera"
      | .orthographic _ => "OrthographicCamera"
  | cube _ => "Cube"
  | sphere _ => "Sphere"
  | cone _ => "Cone"
  | cylinder _ => "Cylinder"
  | indexedFaceSet _ => "IndexedFaceSet"
  | indexedLineSet _ => "IndexedLineSet"
  | pointSet _ => "PointSet"
  | fontStyle _ => "FontStyle"
  | asciiText _ => "AsciiText"
  | info _ => "Info"
  | unknown name => name

end NodeKind

end VrmlWorld
