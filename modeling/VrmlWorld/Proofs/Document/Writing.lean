/-
  VrmlWorld/Proofs/Document/Writing.lean
  ======================================
  **How forms are written.**

  A grammar of the file format from the side of a writer. It says for each kind
  of node the type name and the fields that write it, and for each value the
  tokens it may be written with; it does not mention the tables that readers go
  by. A node has several writings: its fields may stand in any order, a number
  has many numerals, and a field of many values that holds exactly one may do
  without brackets.
-/
import Mathlib.Data.List.Forall2
import VrmlWorld.Document.Form
import VrmlWorld.Document.Token

namespace VrmlWorld.Document

open VrmlWorld.Geometry

/-! ### Values -/

/-- A single value. Numbers that belong together, like coordinates, are one
    value, and so are words that are choices of one field. -/
inductive Atom where
  | numbers (values : List Float32)
  | whole (value : Int)
  | text (value : String)
  | words (values : List String)

/-- The value of a field: a single one, or a list. -/
inductive Datum where
  | one (atom : Atom)
  | many (atoms : List Atom)

/-- The tokens of a single value. A number is written as any that rounds to it,
    a whole number as any that is cut off to it. -/
inductive Atom.Written : Atom → List Token → Prop where
  | numbers {values : List Float32} {written : List Float}
      (rounded : written.map Float.toFloat32 = values) :
      Written (.numbers values) (written.map .number)
  | whole {value : Int} {written : Float} (cut : Number.wholeOfDouble written = value) :
      Written (.whole value) [.number written]
  | text {value : String} : Written (.text value) [.quoted value]
  | words {values : List String} : Written (.words values) (values.map .word)

inductive Datum.Written : Datum → List Token → Prop where
  | one {atom : Atom} {tokens : List Token} (own : atom.Written tokens) :
      Written (.one atom) tokens
  | brackets {atoms : List Atom} {parts : List (List Token)}
      (own : List.Forall₂ Atom.Written atoms parts) :
      Written (.many atoms) (.openBracket :: (parts.flatten ++ [.closeBracket]))
  | bare {atom : Atom} {tokens : List Token} (own : atom.Written tokens) :
      Written (.many [atom]) tokens

structure Entry where
  name : String
  datum : Datum

/-- The tokens of a field: its name, and its value behind it. -/
inductive Entry.Written : Entry → List Token → Prop where
  | mk {entry : Entry} {tokens : List Token} (own : entry.datum.Written tokens) :
      entry.Written (.word entry.name :: tokens)

namespace Entry

def number (name : String) (value : Float32) : Entry := ⟨name, .one (.numbers [value])⟩

def numbers (name : String) (values : List Float32) : Entry := ⟨name, .one (.numbers values)⟩

def whole (name : String) (value : Int) : Entry := ⟨name, .one (.whole value)⟩

def text (name : String) (value : String) : Entry := ⟨name, .one (.text value)⟩

def word (name : String) (value : String) : Entry := ⟨name, .one (.words [value])⟩

def words (name : String) (values : List String) : Entry := ⟨name, .one (.words values)⟩

def points {α : Type} (name : String) (numbers : α → List Float32) (values : List α) : Entry :=
  ⟨name, .many (values.map fun value => .numbers (numbers value))⟩

def wholes (name : String) (values : List Int) : Entry := ⟨name, .many (values.map .whole)⟩

def texts (name : String) (values : List String) : Entry := ⟨name, .many (values.map .text)⟩

end Entry

/-! ### Keywords -/

def truthWord (value : Bool) : String := if value then "TRUE" else "FALSE"

def anchorMapWord : AnchorMap → String
  | .none => "NONE"
  | .point => "POINT"

def wrapWord : TextureWrap → String
  | .tiled => "REPEAT"
  | .clamped => "CLAMP"

def bindingWord : Binding → String
  | .default => "DEFAULT"
  | .overall => "OVERALL"
  | .perPart => "PER_PART"
  | .perPartIndexed => "PER_PART_INDEXED"
  | .perFace => "PER_FACE"
  | .perFaceIndexed => "PER_FACE_INDEXED"
  | .perVertex => "PER_VERTEX"
  | .perVertexIndexed => "PER_VERTEX_INDEXED"

def orderingWord : VertexOrdering → String
  | .unknown => "UNKNOWN_ORDERING"
  | .clockwise => "CLOCKWISE"
  | .counterClockwise => "COUNTERCLOCKWISE"

def shapeTypeWord (solid : Bool) : String := if solid then "SOLID" else "UNKNOWN_SHAPE_TYPE"

def faceTypeWord (convex : Bool) : String := if convex then "CONVEX" else "UNKNOWN_FACE_TYPE"

def familyWord : FontFamily → String
  | .serif => "SERIF"
  | .sans => "SANS"
  | .typewriter => "TYPEWRITER"

def cutWord : FontCut → String
  | .regular => "NONE"
  | .bold => "BOLD"
  | .italic => "ITALIC"

def justificationWord : Justification → String
  | .left => "LEFT"
  | .center => "CENTER"
  | .right => "RIGHT"

structure ConeWords (parts : ConeParts) (words : List String) : Prop where
  nonempty : words ≠ []
  known : ∀ word ∈ words, word ∈ ["SIDES", "BOTTOM", "ALL"]
  sides : parts.sides = true ↔ "SIDES" ∈ words ∨ "ALL" ∈ words
  bottom : parts.bottom = true ↔ "BOTTOM" ∈ words ∨ "ALL" ∈ words

structure CylinderWords (parts : CylinderParts) (words : List String) : Prop where
  nonempty : words ≠ []
  known : ∀ word ∈ words, word ∈ ["SIDES", "TOP", "BOTTOM", "ALL"]
  sides : parts.sides = true ↔ "SIDES" ∈ words ∨ "ALL" ∈ words
  top : parts.top = true ↔ "TOP" ∈ words ∨ "ALL" ∈ words
  bottom : parts.bottom = true ↔ "BOTTOM" ∈ words ∨ "ALL" ∈ words

/-! ### Kinds of nodes -/

def glowEntries (on : Bool) (intensity : Float32) (color : Vec3) : List Entry :=
  [.word "on" (truthWord on), .number "intensity" intensity, .numbers "color" color.toList]

def cameraEntries (position : Vec3) (orientation : Vec4) (focalDistance : Float32) : List Entry :=
  [.numbers "position" position.toList, .numbers "orientation" orientation.toList,
    .number "focalDistance" focalDistance]

def indexedShapeEntries (shape : IndexedShape) : List Entry :=
  [.wholes "coordIndex" shape.coordIndex.toList,
    .wholes "materialIndex" shape.materialIndex.toList,
    .wholes "normalIndex" shape.normalIndex.toList,
    .wholes "textureCoordIndex" shape.textureCoordIndex.toList]

/-- The type names of a kind of node, each with the fields that it is written
    with. A group may also say what a renderer may leave out, which no kind
    keeps. -/
inductive Wording : NodeKind → String → List Entry → Prop where
  | separator : Wording (.group .separator) "Separator" []
  | separatorCulling (culling : String) :
      Wording (.group .separator) "Separator" [.word "renderCulling" culling]
  | group : Wording (.group .group) "Group" []
  | transformSeparator : Wording (.group .transformSeparator) "TransformSeparator" []
  | switch (switch : Switch) :
      Wording (.switch switch) "Switch" [.whole "whichChild" switch.whichChild]
  | lod (lod : Lod) :
      Wording (.lod lod) "LOD"
        [.points "range" (fun x => [x]) lod.range, .numbers "center" lod.center.toList]
  | anchor (anchor : Anchor) :
      Wording (.anchor anchor) "WWWAnchor"
        [.text "name" anchor.url, .text "description" anchor.description,
          .word "map" (anchorMapWord anchor.map)]
  | inline (url : String) (bboxSize bboxCenter : Vec3) :
      Wording (.inline { url, bboxSize, bboxCenter }) "WWWInline"
        [.text "name" url, .numbers "bboxSize" bboxSize.toList,
          .numbers "bboxCenter" bboxCenter.toList]
  | transform (transform : Transform) :
      Wording (.transform transform) "Transform"
        [.numbers "translation" transform.translation.toList,
          .numbers "rotation" transform.rotation.toList,
          .numbers "scaleFactor" transform.scaleFactor.toList,
          .numbers "scaleOrientation" transform.scaleOrientation.toList,
          .numbers "center" transform.center.toList]
  | translation (translation : Vec3) :
      Wording (.transform { translation }) "Translation"
        [.numbers "translation" translation.toList]
  | rotation (rotation : Vec4) :
      Wording (.transform { rotation }) "Rotation" [.numbers "rotation" rotation.toList]
  | scale (scaleFactor : Vec3) :
      Wording (.transform { scaleFactor }) "Scale" [.numbers "scaleFactor" scaleFactor.toList]
  | matrixTransform (matrix : Mat4) :
      Wording (.matrixTransform matrix) "MatrixTransform" [.numbers "matrix" matrix.toList]
  | material (material : Material) :
      Wording (.material material) "Material"
        [.points "ambientColor" Vec3.toList material.ambient.toList,
          .points "diffuseColor" Vec3.toList material.diffuse.toList,
          .points "specularColor" Vec3.toList material.specular.toList,
          .points "emissiveColor" Vec3.toList material.emissive.toList,
          .points "shininess" (fun x => [x]) material.shininess.toList,
          .points "transparency" (fun x => [x]) material.transparency.toList]
  | texture2 (texture : Texture2) :
      Wording (.texture2 texture) "Texture2"
        [.text "filename" texture.filename, .word "wrapS" (wrapWord texture.wrapS),
          .word "wrapT" (wrapWord texture.wrapT)]
  | texture2Transform (transform : Texture2Transform) :
      Wording (.texture2Transform transform) "Texture2Transform"
        [.numbers "translation" transform.translation.toList,
          .number "rotation" transform.rotation,
          .numbers "scaleFactor" transform.scaleFactor.toList,
          .numbers "center" transform.center.toList]
  | textureCoordinate2 (points : Array Vec2) :
      Wording (.textureCoordinate2 points) "TextureCoordinate2"
        [.points "point" Vec2.toList points.toList]
  | coordinate3 (points : Array Vec3) :
      Wording (.coordinate3 points) "Coordinate3" [.points "point" Vec3.toList points.toList]
  | normal (vectors : Array Vec3) :
      Wording (.normal vectors) "Normal" [.points "vector" Vec3.toList vectors.toList]
  | normalBinding (binding : Binding) :
      Wording (.normalBinding binding) "NormalBinding" [.word "value" (bindingWord binding)]
  | materialBinding (binding : Binding) :
      Wording (.materialBinding binding) "MaterialBinding" [.word "value" (bindingWord binding)]
  | shapeHints (hints : ShapeHints) :
      Wording (.shapeHints hints) "ShapeHints"
        [.word "vertexOrdering" (orderingWord hints.vertexOrdering),
          .word "shapeType" (shapeTypeWord hints.solid),
          .word "faceType" (faceTypeWord hints.convex), .number "creaseAngle" hints.creaseAngle]
  | directionalLight (on : Bool) (intensity : Float32) (color direction : Vec3) :
      Wording (.light ⟨on, intensity, color, .directional direction⟩) "DirectionalLight"
        (glowEntries on intensity color ++ [.numbers "direction" direction.toList])
  | pointLight (on : Bool) (intensity : Float32) (color location : Vec3) :
      Wording (.light ⟨on, intensity, color, .point location⟩) "PointLight"
        (glowEntries on intensity color ++ [.numbers "location" location.toList])
  | spotLight (on : Bool) (intensity : Float32) (color location direction : Vec3)
      (dropOffRate cutOffAngle : Float32) :
      Wording (.light ⟨on, intensity, color, .spot location direction dropOffRate cutOffAngle⟩)
        "SpotLight"
        (glowEntries on intensity color ++
          [.numbers "direction" direction.toList, .numbers "location" location.toList,
            .number "dropOffRate" dropOffRate, .number "cutOffAngle" cutOffAngle])
  | perspectiveCamera (position : Vec3) (orientation : Vec4) (focalDistance heightAngle : Float32) :
      Wording (.camera ⟨position, orientation, focalDistance, .perspective heightAngle⟩)
        "PerspectiveCamera"
        (cameraEntries position orientation focalDistance ++ [.number "heightAngle" heightAngle])
  | orthographicCamera (position : Vec3) (orientation : Vec4) (focalDistance height : Float32) :
      Wording (.camera ⟨position, orientation, focalDistance, .orthographic height⟩)
        "OrthographicCamera"
        (cameraEntries position orientation focalDistance ++ [.number "height" height])
  | cube (cube : Cube) :
      Wording (.cube cube) "Cube"
        [.number "width" cube.width, .number "height" cube.height, .number "depth" cube.depth]
  | sphere (sphere : Sphere) : Wording (.sphere sphere) "Sphere" [.number "radius" sphere.radius]
  | cone (cone : Cone) {words : List String} (chosen : ConeWords cone.parts words) :
      Wording (.cone cone) "Cone"
        [.words "parts" words, .number "bottomRadius" cone.bottomRadius,
          .number "height" cone.height]
  | cylinder (cylinder : Cylinder) {words : List String}
      (chosen : CylinderWords cylinder.parts words) :
      Wording (.cylinder cylinder) "Cylinder"
        [.words "parts" words, .number "radius" cylinder.radius, .number "height" cylinder.height]
  | indexedFaceSet (shape : IndexedShape) :
      Wording (.indexedFaceSet shape) "IndexedFaceSet" (indexedShapeEntries shape)
  | indexedLineSet (shape : IndexedShape) :
      Wording (.indexedLineSet shape) "IndexedLineSet" (indexedShapeEntries shape)
  | pointSet (points : PointSet) :
      Wording (.pointSet points) "PointSet"
        [.whole "startIndex" points.startIndex, .whole "numPoints" points.numPoints]
  | fontStyle (font : FontStyle) :
      Wording (.fontStyle font) "FontStyle"
        [.number "size" font.size, .word "family" (familyWord font.family),
          .word "style" (cutWord font.style)]
  | asciiText (text : AsciiText) :
      Wording (.asciiText text) "AsciiText"
        [.texts "string" text.strings, .number "spacing" text.spacing,
          .word "justification" (justificationWord text.justification),
          .points "width" (fun x => [x]) text.width]
  | info (string : String) : Wording (.info string) "Info" [.text "string" string]

/-- Whether a written node of this kind may have children. -/
def isInner : NodeKind → Bool
  | .group _ | .switch _ | .lod _ | .anchor _ => true
  | _ => false

/-! ### Forms -/

mutual

/-- The tokens of a form. A node is written with all its fields, in whatever
    order, and then its children in theirs; it has at most one name. -/
inductive Form.Written : Form → List Token → Prop where
  | node {kind : NodeKind} {typeName : String} {entries order : List Entry}
      {children : List Form} {fields : List (List Token)} {body : List Token}
      (wording : Wording kind typeName entries) (anyOrder : order.Perm entries)
      (inside : List.Forall₂ Entry.Written order fields) (below : Form.WrittenAll children body)
      (inner : children ≠ [] → isInner kind = true) :
      (Form.node kind children).Written
        (.word typeName :: .openBrace :: (fields.flatten ++ (body ++ [.closeBrace])))
  | named {name : String} {kind : NodeKind} {children : List Form} {tokens : List Token}
      (own : (Form.node kind children).Written tokens) :
      (Form.named name (.node kind children)).Written (.define :: .word name :: tokens)
  | reuse {name : String} : (Form.reuse name).Written [.reuse, .word name]

/-- The tokens of forms, one after the other. -/
inductive Form.WrittenAll : List Form → List Token → Prop where
  | nil : WrittenAll [] []
  | cons {form : Form} {others : List Form} {own more : List Token} (first : form.Written own)
      (rest : WrittenAll others more) : WrittenAll (form :: others) (own ++ more)

end

end VrmlWorld.Document
