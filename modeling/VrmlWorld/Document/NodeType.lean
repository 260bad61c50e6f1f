/-
  VrmlWorld/Document/NodeType.lean
  ================================
  **The node types of the file format.**

  A node type lists its fields by name, says which values hold for fields that a
  file leaves out, and whether child nodes may stand among the fields. A field
  is a part of the values of its type: it can be got and set, and its value has
  a reader. `NodeType.named?` is the table of all types.
-/
import VrmlWorld.Document.Value
import VrmlWorld.Scene.Node

namespace VrmlWorld.Document

open VrmlWorld.Geometry

/-- A named part of the values of a node type. -/
structure Field (σ : Type) : Type 1 where
  {Value : Type}
  name : String
  reader : ValueReader Value
  get : σ → Value
  set : Value → σ → σ

def Field.read {σ : Type} (field : Field σ) (values : σ) (tokens : List Token) : σ × List Token :=
  let (value, left) := field.reader.run (field.get values) tokens
  (field.set value values, left)

theorem Field.read_suffix {σ : Type} (field : Field σ) (values : σ) (tokens : List Token) :
    (field.read values tokens).2 <:+ tokens := field.reader.suffix _ _

/-- A node type of the file format. -/
structure NodeType : Type 1 where
  Values : Type
  initial : Values
  fields : List (Field Values)
  kind : Values → NodeKind
  /-- Whether child nodes stand among the fields. -/
  parent : Bool := false

namespace NodeType

/-! ### Grouping nodes -/

/-- A plain group. Its only field, if any, says what a renderer may leave out,
    and is not kept. -/
def grouping (grouping : Grouping) (fields : List (Field Unit)) : NodeType where
  Values := Unit
  initial := ()
  fields
  kind _ := .group grouping
  parent := true

def separator : NodeType := grouping .separator
  [⟨"renderCulling", (Single.keyword () []).reader, fun _ => (), fun _ values => values⟩]

def group : NodeType := grouping .group []

def transformSeparator : NodeType := grouping .transformSeparator []

def switch : NodeType where
  Values := Switch
  initial := {}
  fields := [⟨"whichChild", Single.whole.reader, (·.whichChild),
    fun whichChild values => { values with whichChild }⟩]
  kind := .switch
  parent := true

def lod : NodeType where
  Values := Lod
  initial := {}
  fields := [
    ⟨"range", Single.float.list, (·.range), fun range values => { values with range }⟩,
    ⟨"center", Single.vec3.reader, (·.center), fun center values => { values with center }⟩]
  kind := .lod
  parent := true

def anchor : NodeType where
  Values := Anchor
  initial := {}
  fields := [
    ⟨"name", Single.text.reader, (·.url), fun url values => { values with url }⟩,
    ⟨"description", Single.text.reader, (·.description),
      fun description values => { values with description }⟩,
    ⟨"map", (Single.keyword AnchorMap.none [("POINT", .point)]).reader, (·.map),
      fun map values => { values with map }⟩]
  kind := .anchor
  parent := true

def inline : NodeType where
  Values := Inline
  initial := {}
  fields := [
    ⟨"name", Single.text.reader, (·.url), fun url values => { values with url }⟩,
    ⟨"bboxSize", Single.vec3.reader, (·.bboxSize),
      fun bboxSize values => { values with bboxSize }⟩,
    ⟨"bboxCenter", Single.vec3.reader, (·.bboxCenter),
      fun bboxCenter values => { values with bboxCenter }⟩]
  kind := .inline

/-! ### Property nodes -/

def translationField : Field Transform :=
  ⟨"translation", Single.vec3.reader, (·.translation),
    fun translation values => { values with translation }⟩

def rotationField : Field Transform :=
  ⟨"rotation", Single.vec4.reader, (·.rotation), fun rotation values => { values with rotation }⟩

def scaleFactorField : Field Transform :=
  ⟨"scaleFactor", Single.vec3.reader, (·.scaleFactor),
    fun scaleFactor values => { values with scaleFactor }⟩

/-- A transform with some of the fields that transforms have. -/
def ofTransform (fields : List (Field Transform)) : NodeType where
  Values := Transform
  initial := {}
  fields
  kind := .transform

def transform : NodeType := ofTransform [
  translationField, rotationField, scaleFactorField,
  ⟨"scaleOrientation", Single.vec4.reader, (·.scaleOrientation),
    fun scaleOrientation values => { values with scaleOrientation }⟩,
  ⟨"center", Single.vec3.reader, (·.center), fun center values => { values with center }⟩]

def translation : NodeType := ofTransform [translationField]

def rotation : NodeType := ofTransform [rotationField]

def scale : NodeType := ofTransform [scaleFactorField]

def matrixTransform : NodeType where
  Values := Mat4
  initial := .identity
  fields := [⟨"matrix", matrix, id, fun matrix _ => matrix⟩]
  kind := .matrixTransform

def material : NodeType where
  Values := Material
  initial := {}
  fields := [
    ⟨"ambientColor", Single.vec3.array, (·.ambient), fun ambient values => { values with ambient }⟩,
    ⟨"diffuseColor", Single.vec3.array, (·.diffuse), fun diffuse values => { values with diffuse }⟩,
    ⟨"specularColor", Single.vec3.array, (·.specular),
      fun specular values => { values with specular }⟩,
    ⟨"emissiveColor", Single.vec3.array, (·.emissive),
      fun emissive values => { values with emissive }⟩,
    ⟨"shininess", Single.float.array, (·.shininess),
      fun shininess values => { values with shininess }⟩,
    ⟨"transparency", Single.float.array, (·.transparency),
      fun transparency values => { values with transparency }⟩]
  kind := .material

def wrap : Single TextureWrap := Single.keyword .tiled [("CLAMP", .clamped)]

def texture2 : NodeType where
  Values := Texture2
  initial := {}
  fields := [
    ⟨"filename", Single.text.reader, (·.filename), fun filename values => { values with filename }⟩,
    ⟨"wrapS", wrap.reader, (·.wrapS), fun wrapS values => { values with wrapS }⟩,
    ⟨"wrapT", wrap.reader, (·.wrapT), fun wrapT values => { values with wrapT }⟩,
    ⟨"image", image, fun _ => (), fun _ values => values⟩]
  kind := .texture2

def texture2Transform : NodeType where
  Values := Texture2Transform
  initial := {}
  fields := [
    ⟨"translation", Single.vec2.reader, (·.translation),
      fun translation values => { values with translation }⟩,
    ⟨"rotation", Single.float.reader, (·.rotation), fun rotation values => { values with rotation }⟩,
    ⟨"scaleFactor", Single.vec2.reader, (·.scaleFactor),
      fun scaleFactor values => { values with scaleFactor }⟩,
    ⟨"center", Single.vec2.reader, (·.center), fun center values => { values with center }⟩]
  kind := .texture2Transform

def ofList {α : Type} (name : String) (single : Single α) (kind : Array α → NodeKind) : NodeType where
  Values := Array α
  initial := #[]
  fields := [⟨name, single.array, id, fun members _ => members⟩]
  kind

def textureCoordinate2 : NodeType := ofList "point" Single.vec2 .textureCoordinate2

def coordinate3 : NodeType := ofList "point" Single.vec3 .coordinate3

def normal : NodeType := ofList "vector" Single.vec3 .normal

def bindings : List (String × Binding) := [
  ("DEFAULT", .default), ("OVERALL", .overall),
  ("PER_PART", .perPart), ("PER_PART_INDEXED", .perPartIndexed),
  ("PER_FACE", .perFace), ("PER_FACE_INDEXED", .perFaceIndexed),
  ("PER_VERTEX", .perVertex), ("PER_VERTEX_INDEXED", .perVertexIndexed)]

def ofBinding (kind : Binding → NodeKind) : NodeType where
  Values := Binding
  initial := .default
  fields := [⟨"value", (Single.keyword .default bindings).reader, id, fun binding _ => binding⟩]
  kind

def normalBinding : NodeType := ofBinding .normalBinding

def materialBinding : NodeType := ofBinding .materialBinding

def shapeHints : NodeType where
  Values := ShapeHints
  initial := {}
  fields := [
    ⟨"vertexOrdering",
      (Single.keyword VertexOrdering.unknown
        [("CLOCKWISE", .clockwise), ("COUNTERCLOCKWISE", .counterClockwise)]).reader,
      (·.vertexOrdering), fun vertexOrdering values => { values with vertexOrdering }⟩,
    ⟨"shapeType", (Single.keyword false [("SOLID", true)]).reader, (·.solid),
      fun solid values => { values with solid }⟩,
    ⟨"faceType", (Single.keyword true [("UNKNOWN_FACE_TYPE", false)]).reader, (·.convex),
      fun convex values => { values with convex }⟩,
    ⟨"creaseAngle", Single.float.reader, (·.creaseAngle),
      fun creaseAngle values => { values with creaseAngle }⟩]
  kind := .shapeHints

def fontStyle : NodeType where
  Values := FontStyle
  initial := {}
  fields := [
    ⟨"size", Single.float.reader, (·.size), fun size values => { values with size }⟩,
    ⟨"family",
      (Single.keyword FontFamily.serif [("SANS", .sans), ("TYPEWRITER", .typewriter)]).reader,
      (·.family), fun family values => { values with family }⟩,
    ⟨"style", (Single.keyword FontCut.regular [("BOLD", .bold), ("ITALIC", .italic)]).reader,
      (·.style), fun style values => { values with style }⟩]
  kind := .fontStyle

/-! ### Lights and cameras -/

structure Glow where
  on : Bool := true
  intensity : Float32 := 1
  color : Vec3 := ⟨1, 1, 1⟩
deriving DecidableEq, Repr

def Glow.light (glow : Glow) (kind : LightKind) : LightNode :=
  ⟨glow.on, glow.intensity, glow.color, kind⟩

/-- The fields of all lights, in a record that has them among others. -/
def glowFields {σ : Type} (get : σ → Glow) (set : Glow → σ → σ) : List (Field σ) := [
  ⟨"on", Single.truth.reader, fun values => (get values).on,
    fun on values => set { get values with on } values⟩,
  ⟨"intensity", Single.float.reader, fun values => (get values).intensity,
    fun intensity values => set { get values with intensity } values⟩,
  ⟨"color", Single.vec3.reader, fun values => (get values).color,
    fun color values => set { get values with color } values⟩]

structure DirectionalValues extends Glow where
  direction : Vec3 := ⟨0, 0, -1⟩
deriving DecidableEq, Repr

def directionalLight : NodeType where
  Values := DirectionalValues
  initial := {}
  fields := glowFields (·.toGlow) (fun glow values => { values with toGlow := glow }) ++ [
    ⟨"direction", Single.vec3.reader, (·.direction),
      fun direction values => { values with direction }⟩]
  kind values := .light (values.light (.directional values.direction))

structure PointValues extends Glow where
  location : Vec3 := ⟨0, 0, 1⟩
deriving DecidableEq, Repr

def pointLight : NodeType where
  Values := PointValues
  initial := {}
  fields := glowFields (·.toGlow) (fun glow values => { values with toGlow := glow }) ++ [
    ⟨"location", Single.vec3.reader, (·.location), fun location values => { values with location }⟩]
  kind values := .light (values.light (.point values.location))

structure SpotValues extends Glow where
  location : Vec3 := ⟨0, 0, 1⟩
  direction : Vec3 := ⟨0, 0, -1⟩
  dropOffRate : Float32 := 0
  cutOffAngle : Float32 := 0.785398
deriving DecidableEq, Repr

def spotLight : NodeType where
  Values := SpotValues
  initial := {}
  fields := glowFields (·.toGlow) (fun glow values => { values with toGlow := glow }) ++ [
    ⟨"direction", Single.vec3.reader, (·.direction),
      fun direction values => { values with direction }⟩,
    ⟨"location", Single.vec3.reader, (·.location), fun location values => { values with location }⟩,
    ⟨"dropOffRate", Single.float.reader, (·.dropOffRate),
      fun dropOffRate values => { values with dropOffRate }⟩,
    ⟨"cutOffAngle", Single.float.reader, (·.cutOffAngle),
      fun cutOffAngle values => { values with cutOffAngle }⟩]
  kind values := .light <| values.light <|
    .spot values.location values.direction values.dropOffRate values.cutOffAngle

/-- The values of a camera; `extent` is its angle or its height. -/
structure CameraValues where
  position : Vec3 := ⟨0, 0, 1⟩
  orientation : Vec4 := ⟨0, 0, 1, 0⟩
  focalDistance : Float32 := 5
  extent : Float32
deriving DecidableEq, Repr

/-- A camera whose angle or height has a name and a value to start from. -/
def ofCamera (extentName : String) (extent : Float32) (projection : Float32 → CameraProjection) :
    NodeType where
  Values := CameraValues
  initial := { extent }
  fields := [
    ⟨"position", Single.vec3.reader, (·.position), fun position values => { values with position }⟩,
    ⟨"orientation", Single.vec4.reader, (·.orientation),
      fun orientation values => { values with orientation }⟩,
    ⟨"focalDistance", Single.float.reader, (·.focalDistance),
      fun focalDistance values => { values with focalDistance }⟩,
    ⟨extentName, Single.float.reader, (·.extent), fun extent values => { values with extent }⟩]
  kind values := .camera
    ⟨values.position, values.orientation, values.focalDistance, projection values.extent⟩

def perspectiveCamera : NodeType := ofCamera "heightAngle" 0.785398 .perspective

def orthographicCamera : NodeType := ofCamera "height" 2 .orthographic

/-! ### Shapes -/

def cube : NodeType where
  Values := Cube
  initial := {}
  fields := [
    ⟨"width", Single.float.reader, (·.width), fun width values => { values with width }⟩,
    ⟨"height", Single.float.reader, (·.height), fun height values => { values with height }⟩,
    ⟨"depth", Single.float.reader, (·.depth), fun depth values => { values with depth }⟩]
  kind := .cube

def sphere : NodeType where
  Values := Sphere
  initial := {}
  fields := [⟨"radius", Single.float.reader, (·.radius), fun radius _ => { radius }⟩]
  kind := .sphere

def cone : NodeType where
  Values := Cone
  initial := {}
  fields := [
    ⟨"parts",
      flags [("SIDES", ⟨true, false⟩), ("BOTTOM", ⟨false, true⟩), ("ALL", .all)] ConeParts.union,
      (·.parts), fun parts values => { values with parts }⟩,
    ⟨"bottomRadius", Single.float.reader, (·.bottomRadius),
      fun bottomRadius values => { values with bottomRadius }⟩,
    ⟨"height", Single.float.reader, (·.height), fun height values => { values with height }⟩]
  kind := .cone

def cylinder : NodeType where
  Values := Cylinder
  initial := {}
  fields := [
    ⟨"parts",
      flags [("SIDES", ⟨true, false, false⟩), ("TOP", ⟨false, true, false⟩),
        ("BOTTOM", ⟨false, false, true⟩), ("ALL", .all)] CylinderParts.union,
      (·.parts), fun parts values => { values with parts }⟩,
    ⟨"radius", Single.float.reader, (·.radius), fun radius values => { values with radius }⟩,
    ⟨"height", Single.float.reader, (·.height), fun height values => { values with height }⟩]
  kind := .cylinder

/-- A shape that picks its corners from the current coordinates. -/
def ofIndexedShape (kind : IndexedShape → NodeKind) : NodeType where
  Values := IndexedShape
  initial := {}
  fields := [
    ⟨"coordIndex", Single.whole.array, (·.coordIndex),
      fun coordIndex values => { values with coordIndex }⟩,
    ⟨"materialIndex", Single.whole.array, (·.materialIndex),
      fun materialIndex values => { values with materialIndex }⟩,
    ⟨"normalIndex", Single.whole.array, (·.normalIndex),
      fun normalIndex values => { values with normalIndex }⟩,
    ⟨"textureCoordIndex", Single.whole.array, (·.textureCoordIndex),
      fun textureCoordIndex values => { values with textureCoordIndex }⟩]
  kind

def indexedFaceSet : NodeType := ofIndexedShape .indexedFaceSet

def indexedLineSet : NodeType := ofIndexedShape .indexedLineSet

def pointSet : NodeType where
  Values := PointSet
  initial := {}
  fields := [
    ⟨"startIndex", Single.whole.reader, (·.startIndex),
      fun startIndex values => { values with startIndex }⟩,
    ⟨"numPoints", Single.whole.reader, (·.numPoints),
      fun numPoints values => { values with numPoints }⟩]
  kind := .pointSet

def asciiText : NodeType where
  Values := AsciiText
  initial := {}
  fields := [
    ⟨"string", Single.text.list, (·.strings), fun strings values => { values with strings }⟩,
    ⟨"spacing", Single.float.reader, (·.spacing), fun spacing values => { values with spacing }⟩,
    ⟨"justification",
      (Single.keyword Justification.left [("CENTER", .center), ("RIGHT", .right)]).reader,
      (·.justification), fun justification values => { values with justification }⟩,
    ⟨"width", Single.float.list, (·.width), fun width values => { values with width }⟩]
  kind := .asciiText

def info : NodeType where
  Values := String
  initial := ""
  fields := [⟨"string", Single.text.reader, id, fun string _ => string⟩]
  kind := .info

/-! ### The table -/

def table : List (String × NodeType) := [
  ("Separator", separator), ("Group", group), ("TransformSeparator", transformSeparator),
  ("Switch", switch), ("LOD", lod), ("WWWAnchor", anchor), ("WWWInline", inline),
  ("Transform", transform), ("Translation", translation), ("Rotation", rotation), ("Scale", scale),
  ("MatrixTransform", matrixTransform), ("Material", material), ("Texture2", texture2),
  ("Texture2Transform", texture2Transform), ("TextureCoordinate2", textureCoordinate2),
  ("Coordinate3", coordinate3), ("Normal", normal), ("NormalBinding", normalBinding),
  ("MaterialBinding", materialBinding), ("ShapeHints", shapeHints),
  ("DirectionalLight", directionalLight), ("PointLight", pointLight), ("SpotLight", spotLight),
  ("PerspectiveCamera", perspectiveCamera), ("OrthographicCamera", orthographicCamera),
  ("Cube", cube), ("Sphere", sphere), ("Cone", cone), ("Cylinder", cylinder),
  ("IndexedFaceSet", indexedFaceSet), ("IndexedLineSet", indexedLineSet), ("PointSet", pointSet),
  ("FontStyle", fontStyle), ("AsciiText", asciiText), ("Info", info)]

def named? (name : String) : Option NodeType := table.lookup name

end NodeType

end VrmlWorld.Document
