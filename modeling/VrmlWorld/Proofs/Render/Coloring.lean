/-
  VrmlWorld/Proofs/Render/Coloring.lean
  =====================================
  **Lit shapes have the color of their material.**

  The color of a material is kept twice: as the diffuse color of the surface, which goes
  to the lighting, and as the palette, which goes into the vertices. They are written by
  different rules, and materials that give no diffuse color leave both alone. On every
  way through a scene, into groups and out of them, the first color of the palette is the
  diffuse color of the surface (`Properties.Colored`). So a mesh that is made at a visit
  and has one color for all of it has the color of the surface that it is drawn with.
-/
import VrmlWorld.Proofs.Render.Leaks
import VrmlWorld.Proofs.Tessellation.Lines

namespace VrmlWorld

open VrmlWorld.Geometry

/-! ### What every visit keeps of the properties -/

namespace Occurrence

variable {σ : Type} {host : Host σ} {view : View}

/-- What single nodes keep of the properties, and what holds inside a group and behind it
    if it held before, holds at every visit and behind the whole walk. -/
theorem kept_of_properties {P : Properties → Prop} (occurrence : Occurrence)
    (state : Properties × Pass σ)
    (meet : ∀ visit ∈ occurrence.visits host view state, visit.kind.isGroup = false →
      P visit.properties → P (visit.behind host view).1)
    (enter : ∀ properties kind inner, properties.entering? kind = some inner →
      P properties → P inner)
    (leave : ∀ properties kind inner, P properties → P inner → P (properties.leaving kind inner))
    (start : P state.1) :
    P (occurrence.visit host view state).1 ∧
      ∀ visit ∈ occurrence.visits host view state, P visit.properties := by
  induction occurrence generalizing state with
  | absent id => exact ⟨start, by simp [visits]⟩
  | node id kind arity child ih =>
    obtain ⟨properties, pass⟩ := state
    have here : P properties := start
    cases group : kind.isGroup with
    | false =>
      have met := meet ⟨id, kind, properties, pass⟩ (by simp [visits]) group here
      rw [Visit.behind_of_single group] at met
      simp only [visit, visits, group, Bool.false_eq_true, if_false]
      exact ⟨met, List.forall_mem_singleton.2 here⟩
    | true =>
      cases entering : properties.entering? kind with
      | none =>
        simp only [visit, visits, group, entering, if_true]
        exact ⟨here, List.forall_mem_singleton.2 here⟩
      | some inner =>
        simp only [visit, visits, group, entering, if_true] at meet ⊢
        have below := fun visit member => meet visit (List.mem_cons_of_mem _ member)
        have inside : P (inner, pass).1 := enter properties kind inner entering here
        generalize shown kind arity properties.transform view.viewer = positions at below ⊢
        generalize (inner, pass) = state at inside below ⊢
        suffices children :
            P (positions.foldl (fun state position => visit host view (child position) state)
              state).1 ∧
            ∀ met ∈ trail (fun position => visit host view (child position))
              (fun position => visits host view (child position)) positions state,
              P met.properties from
          ⟨leave properties kind _ here children.1, List.forall_mem_cons.2 ⟨here, children.2⟩⟩
        induction positions generalizing state with
        | nil => exact ⟨inside, by simp [trail]⟩
        | cons position positions further =>
          rw [trail] at below ⊢
          obtain ⟨behind, first⟩ := ih position state
            (fun visit member => below visit (List.mem_append_left _ member)) inside
          obtain ⟨atEnd, others⟩ := further _ behind
            (fun visit member => below visit (List.mem_append_right _ member))
          exact ⟨atEnd, List.forall_mem_append.2 ⟨first, others⟩⟩

end Occurrence

/-! ### The color in effect -/

namespace Properties

variable {properties inner : Properties} {among : Material → Prop}

/-- Either no material has set a color, and the surface has the preset one; or the
    palette is that of a material, and the surface has the first color of it. -/
inductive Colored (among : Material → Prop) (properties : Properties) : Prop where
  | preset (empty : properties.palette = #[])
      (same : properties.surface.diffuse = ({} : Surface).diffuse)
  | given (material : Material) (isAmong : among material)
      (palette : properties.palette = material.diffuse)
      (first : material.diffuse[0]? = some properties.surface.diffuse)

theorem Colored.congr (colored : properties.Colored among)
    (samePalette : inner.palette = properties.palette)
    (sameDiffuse : inner.surface.diffuse = properties.surface.diffuse) : inner.Colored among := by
  cases colored with
  | preset empty same => exact .preset (samePalette.trans empty) (sameDiffuse.trans same)
  | given material isAmong palette first =>
    rw [← sameDiffuse] at first
    exact .given material isAmong (samePalette.trans palette) first

theorem Colored.of_shaping_eq (colored : properties.Colored among)
    (same : inner.shaping = properties.shaping) : inner.Colored among :=
  colored.congr (congrArg (·.palette) same) (congrArg (·.surface.diffuse) same)

/-- A material sets palette and surface both or leaves both as they are. -/
theorem Colored.withMaterial (colored : properties.Colored among) {material : Material}
    (isAmong : among material) : (properties.withMaterial material).Colored among := by
  cases given : material.diffuse[0]? with
  | none =>
    have none_given : material.diffuse = #[] := by simpa using given
    apply colored.congr
    · simp [Properties.withMaterial, none_given]
    · simp [Properties.withMaterial, Surface.apply, none_given]
  | some first =>
    have some_given : material.diffuse ≠ #[] := by
      intro empty
      simp [empty] at given
    apply Colored.given material isAmong
    · simp [Properties.withMaterial, some_given]
    · simp [Properties.withMaterial, Surface.apply, given]

theorem Colored.after (colored : properties.Colored among) {kind : NodeKind}
    (isAmong : ∀ material, kind = .material material → among material) :
    (properties.after kind).Colored among := by
  cases kind with
  | material material => exact colored.withMaterial (isAmong material rfl)
  | _ => exact colored.congr rfl rfl

theorem Colored.leaving (colored : properties.Colored among) (kind : NodeKind)
    (inside : inner.Colored among) : (properties.leaving kind inner).Colored among := by
  have shaping := properties.shaping_leaving kind inner
  cases restores : kind.restoresState with
  | true => exact colored.of_shaping_eq (by simpa [restores] using shaping)
  | false => exact inside.of_shaping_eq (by simpa [restores] using shaping)

theorem Colored.diffuse_of_empty (colored : properties.Colored among)
    (empty : properties.palette = #[]) :
    properties.surface.diffuse = ({} : Surface).diffuse := by
  cases colored with
  | preset _ same => exact same
  | given material isAmong palette first => simp [← palette, empty] at first

/-- A palette that is not empty is that of a material, and the surface has its first
    color. -/
theorem Colored.exists_of_given (colored : properties.Colored among)
    (given : properties.palette ≠ #[]) :
    properties.palette[0]? = some properties.surface.diffuse ∧
      ∃ material, among material ∧ properties.palette = material.diffuse := by
  cases colored with
  | preset empty same => exact absurd empty given
  | given material isAmong palette first =>
    exact ⟨palette ▸ first, material, isAmong, palette⟩

theorem overallColor_context {first : Vec3} (palette : properties.palette[0]? = some first)
    (segments : Nat) : (properties.context segments).overallColor.xyz = first := by
  simp only [ShapeContext.overallColor, ShapeContext.paletteColor?, context, palette]
  rfl

end Properties

/-! ### Meshes of one color -/

/-- Whether all vertices of a kind of shape have the color of the shape as a whole. -/
def NodeKind.takesOverallColor (binding : Binding) : NodeKind → Bool
  | .cube _ | .sphere _ | .cone _ | .cylinder _ => true
  | .indexedFaceSet _ => binding = .default ∨ binding = .overall
  | _ => false

namespace Tessellation

theorem color_cube (shape : Cube) (color : Geometry.Vec4) :
    ∀ vertex ∈ (cube shape color).vertices, vertex.color = color := by
  simp [cube, cubeFaces]

theorem color_sphere (shape : Sphere) (color : Geometry.Vec4) (segments : Nat) :
    ∀ vertex ∈ (sphere shape color segments).vertices, vertex.color = color := by
  intro vertex member
  simp only [sphere, List.mem_flatMap] at member
  obtain ⟨_, _, _, _, corner⟩ := member
  simp only [List.mem_cons, List.not_mem_nil, or_false] at corner
  rcases corner with rfl | rfl | rfl | rfl | rfl | rfl <;> rfl

theorem color_capTriangle {first second normal : Vec3} {radius height : Float32} {color : Vec4} :
    ∀ vertex ∈ capTriangle first second radius height normal color, vertex.color = color := by
  simp [capTriangle]

theorem color_cone? {shape : Cone} {color : Vec4} {segments : Nat} {mesh : Mesh}
    (made : cone? shape color segments = some mesh) :
    ∀ vertex ∈ mesh.vertices, vertex.color = color := by
  intro vertex member
  rw [Mesh.eq_of_ofVertices? made] at member
  obtain ⟨_, _, part⟩ := List.mem_flatMap.1 member
  rcases List.mem_append.1 part with sides | bottom
  · split at sides
    · simp only [List.mem_cons, List.not_mem_nil, or_false] at sides
      rcases sides with rfl | rfl | rfl <;> rfl
    · cases sides
  · split at bottom
    · exact color_capTriangle vertex bottom
    · cases bottom

theorem color_cylinder? {shape : Cylinder} {color : Vec4} {segments : Nat} {mesh : Mesh}
    (made : cylinder? shape color segments = some mesh) :
    ∀ vertex ∈ mesh.vertices, vertex.color = color := by
  intro vertex member
  rw [Mesh.eq_of_ofVertices? made] at member
  obtain ⟨_, _, part⟩ := List.mem_flatMap.1 member
  rcases List.mem_append.1 part with sidesOrTop | bottom
  · rcases List.mem_append.1 sidesOrTop with sides | top
    · split at sides
      · simp only [List.mem_cons, List.not_mem_nil, or_false] at sides
        rcases sides with rfl | rfl | rfl | rfl | rfl | rfl <;> rfl
      · cases sides
    · split at top
      · exact color_capTriangle vertex top
      · cases top
  · split at bottom
    · exact color_capTriangle vertex bottom
    · cases bottom

/-- The color of a corner under a binding that makes no difference between corners. -/
theorem color_faceVertex {context : ShapeContext}
    (whole : context.materialBinding = .default ∨ context.materialBinding = .overall)
    (shape : IndexedShape) (ordinal : Nat) (flat : Vec3) (corner : Corner) :
    (faceVertex shape context ordinal flat corner).color = context.overallColor := by
  rcases whole with without | overall
  · simp [faceVertex, boundColor?, boundPosition?, without]
  · simp only [faceVertex, boundColor?, boundPosition?, overall, Option.bind_some,
      ShapeContext.overallColor]
    cases context.paletteColor? 0 <;> rfl

theorem exists_of_mem_faceVertices {shape : IndexedShape} {context : ShapeContext} {ordinal : Nat}
    {run : List Nat} {vertex : Vertex} (member : vertex ∈ faceVertices shape context ordinal run) :
    ∃ flat corner, vertex = faceVertex shape context ordinal flat corner := by
  rw [faceVertices] at member
  split at member
  · obtain ⟨⟨a, b, c⟩, -, corner⟩ := List.mem_flatMap.1 member
    dsimp only at corner
    split at corner
    · simp only [List.mem_cons, List.not_mem_nil, or_false] at corner
      rcases corner with rfl | rfl | rfl <;> exact ⟨_, _, rfl⟩
    · simp only [List.mem_cons, List.not_mem_nil, or_false] at corner
      rcases corner with rfl | rfl | rfl <;> exact ⟨_, _, rfl⟩
  · cases member

theorem color_faceSet? {shape : IndexedShape} {context : ShapeContext} {mesh : Mesh}
    (whole : context.materialBinding = .default ∨ context.materialBinding = .overall)
    (made : faceSet? shape context = some mesh) :
    ∀ vertex ∈ mesh.vertices, vertex.color = context.overallColor := by
  intro vertex member
  rw [Mesh.eq_of_ofVertices? made] at member
  obtain ⟨⟨run, ordinal⟩, -, face⟩ := List.mem_flatMap.1 member
  obtain ⟨flat, corner, rfl⟩ := exists_of_mem_faceVertices face
  exact color_faceVertex whole shape ordinal flat corner

end Tessellation

theorem color_of_takesOverallColor {kind : NodeKind} {context : ShapeContext} {mesh : Mesh}
    (takes : kind.takesOverallColor context.materialBinding)
    (made : tessellate? kind context = some mesh) :
    ∀ vertex ∈ mesh.vertices, vertex.color = context.overallColor := by
  cases kind with
  | cube shape =>
    cases made
    exact Tessellation.color_cube shape _
  | sphere shape =>
    cases made
    exact Tessellation.color_sphere shape _ _
  | cone shape => exact Tessellation.color_cone? made
  | cylinder shape => exact Tessellation.color_cylinder? made
  | indexedFaceSet shape =>
    have whole : context.materialBinding = .default ∨ context.materialBinding = .overall := by
      simpa [NodeKind.takesOverallColor] using takes
    exact Tessellation.color_faceSet? whole made
  | _ => cases takes

/-! ### Draws -/

/-- A mesh that can be made, and is not kept from before, is drawn. -/
theorem Visit.draw?_of_fresh {σ : Type} {visit : Visit σ} (host : Host σ) {view : View}
    {mesh : Mesh} (cold : visit.pass.caches.meshes.get? visit.node = none)
    (made : tessellate? visit.kind (visit.properties.context view.segments) = some mesh) :
    visit.draw? host view = some (view.draw visit.properties visit.node mesh
      visit.properties.texture (mesh.topology != .triangles)) := by
  obtain ⟨node, kind, properties, pass⟩ := visit
  have fresh : Visit.keptOr ⟨node, kind, properties, pass⟩ (some mesh) = some mesh := by
    simp only [keptOr, cold]
    rfl
  cases kind with
  | cube | sphere | cone | cylinder | indexedFaceSet | indexedLineSet | pointSet =>
    simp only [draw?, mesh?, made, fresh]
    rfl
  | _ => cases made

namespace Renderer

variable {σ : Type}

/-- Wherever a frame comes, the color in effect is the preset one or that of a material
    of the scene. -/
theorem colored_of_mem_visits {renderer : Renderer} {host : Host σ} {state : σ}
    {graph : SceneGraph} {camera : Camera} {aspect : Float32} {visit : Visit σ}
    (member : visit ∈ renderer.visits host state graph camera aspect) :
    visit.properties.Colored fun material =>
      ∃ node, graph.kind? node = some (.material material) := by
  rw [visits] at member
  cases unfolds : graph.unfolding with
  | none => simp [unfolds] at member
  | some root =>
    rw [unfolds, Option.elim_some] at member
    obtain ⟨id, -, rfl⟩ := Option.map_eq_some_iff.1 unfolds
    refine (Occurrence.kept_of_properties
      (P := Properties.Colored fun material =>
        ∃ node, graph.kind? node = some (.material material)) _ _ ?_ ?_ ?_ ?_).2 visit member
    · intro met among single colored
      rw [Visit.behind_of_single single]
      have stored := Occurrence.kind?_of_mem_visits among
      have behind := colored.after fun material isMaterial => ⟨met.node, isMaterial ▸ stored⟩
      exact behind.of_shaping_eq (Properties.shaping_meet _ _ _ _ _ _)
    · intro properties kind inner entering colored
      exact colored.of_shaping_eq (Properties.shaping_of_entering? entering)
    · intro properties kind inner colored inside
      exact colored.leaving kind inside
    · exact .preset rfl rfl

/-- At every visit of a frame the surface has the first color of the palette, which is
    that of a material of the scene, or the preset color if no material has given any.
    A mesh that is made there, under a palette, has for the shape as a whole the color
    that it is drawn with. -/
theorem overall_color_is_diffuse (renderer : Renderer) (host : Host σ) (state : σ)
    (graph : SceneGraph) (camera : Camera) (aspect : Float32) :
    let view := renderer.view (renderer.lights graph camera) camera aspect
    let frame := (renderer.render host state graph camera aspect).1
    ∀ visit ∈ renderer.visits host state graph camera aspect,
      let properties := visit.properties
      let context := properties.context view.segments
      (properties.palette = #[] → properties.surface.diffuse = ({} : Surface).diffuse) ∧
      (properties.palette ≠ #[] →
        properties.palette[0]? = some properties.surface.diffuse ∧
        (∃ node material, graph.kind? node = some (.material material) ∧
          properties.palette = material.diffuse) ∧
        ∀ mesh, visit.pass.caches.meshes.get? visit.node = none →
          tessellate? visit.kind context = some mesh →
          ∃ draw ∈ frame.draws, draw.node = visit.node ∧ draw.mesh = mesh ∧
            draw.surface = properties.surface ∧
            context.overallColor.xyz = draw.uniforms.material.diffuse.xyz ∧
            (visit.kind.takesOverallColor context.materialBinding →
              ∀ vertex ∈ mesh.vertices,
                vertex.color.xyz = draw.uniforms.material.diffuse.xyz)) := by
  intro view frame visit member properties context
  have colored := colored_of_mem_visits member
  constructor
  · intro empty
    exact colored.diffuse_of_empty empty
  · intro given
    obtain ⟨first, material, ⟨node, stored⟩, palette⟩ := colored.exists_of_given given
    refine ⟨first, ⟨node, material, stored, palette⟩, ?_⟩
    intro mesh cold made
    have drawn := visit.draw?_of_fresh host cold made
    have overall : context.overallColor.xyz = properties.surface.diffuse :=
      Properties.overallColor_context first view.segments
    refine ⟨view.draw properties visit.node mesh properties.texture
      (mesh.topology != .triangles), ?_, rfl, rfl, rfl, overall, ?_⟩
    · rw [← Array.mem_toList_iff, draws_render]
      exact List.mem_filterMap.2 ⟨visit, member, drawn⟩
    · intro takes vertex among
      rw [color_of_takesOverallColor takes made vertex among]
      exact overall

/-- The scene of `Group { Material { diffuseColor 1 0 0 } Material { shininess 1 }
    Cube {} }`. -/
def redCube : SceneGraph :=
  { (((SceneGraph.empty.insert { kind := .material { diffuse := #[⟨1, 0, 0⟩] } }).insert
      { kind := .material { shininess := #[1] } }).insert { kind := .cube {} }).insert
      { kind := .group .group, children := [⟨0⟩, ⟨1⟩, ⟨2⟩] } with root := some ⟨3⟩ }

theorem mem_visits_redCube (renderer : Renderer) (host : Host σ) (state : σ) (camera : Camera)
    (aspect : Float32) :
    ⟨⟨2⟩, .cube {},
        { surface := (({} : Surface).apply { diffuse := #[⟨1, 0, 0⟩] }).apply { shininess := #[1] }
          palette := #[⟨1, 0, 0⟩] },
        { caches := renderer.caches, host := state }⟩ ∈
      renderer.visits host state redCube camera aspect := by
  have unfolds : redCube.unfolding = some (redCube.unfold 5 ⟨3⟩) := rfl
  have group : redCube.get? ⟨3⟩ =
      some { kind := .group .group, children := [⟨0⟩, ⟨1⟩, ⟨2⟩] } := rfl
  have red : redCube.get? ⟨0⟩ = some { kind := .material { diffuse := #[⟨1, 0, 0⟩] } } := rfl
  have shiny : redCube.get? ⟨1⟩ = some { kind := .material { shininess := #[1] } } := rfl
  have cube : redCube.get? ⟨2⟩ = some { kind := .cube {} } := rfl
  rw [visits, unfolds, Option.elim_some, Occurrence.visits_unfold_group group rfl _ rfl rfl]
  simp only [active, trail, Occurrence.visit_unfold_single red rfl,
    Occurrence.visit_unfold_single shiny rfl, Occurrence.visits_unfold_single cube rfl]
  refine List.mem_cons_of_mem _ (List.mem_append_right _ (List.mem_append_right _ ?_))
  exact List.mem_append_left _ (List.mem_singleton.2 rfl)

/-- The cube is drawn red throughout, though the last material has no diffuse color. -/
theorem overall_color_is_diffuse_of_redCube :
    let host : Host Unit :=
      { loadTexture := fun _ state => (.error .noRootNode, state)
        rasterize := fun _ state => (none, state) }
    let renderer := (ofSettings {}).clear
    let camera := Camera.ofSettings {}
    ∃ visit ∈ renderer.visits host () redCube camera 1,
      visit.properties.palette = #[⟨1, 0, 0⟩] ∧
      ∃ draw ∈ (renderer.render host () redCube camera 1).1.draws, draw.node = ⟨2⟩ ∧
        ∀ vertex ∈ draw.mesh.vertices,
          vertex.color.xyz = draw.uniforms.material.diffuse.xyz := by
  intro host renderer camera
  have member := mem_visits_redCube renderer host () camera 1
  refine ⟨_, member, rfl, ?_⟩
  have cold : renderer.caches.meshes.get? ⟨2⟩ = none := by simp [renderer, clear, MeshCache.get?]
  obtain ⟨-, -, drawn⟩ :=
    (overall_color_is_diffuse renderer host () redCube camera 1 _ member).2 (by simp)
  obtain ⟨draw, among, node, mesh, -, -, colored⟩ := drawn _ cold rfl
  rw [← mesh] at colored
  exact ⟨draw, among, node, colored rfl⟩

end Renderer

end VrmlWorld
