/-
  VrmlWorld/Viewer/Pick.lean
  ==========================
  **What a ray meets first.**

  Boxes and balls can be picked. A walk lists them as targets, each with the
  matrix that places it and the innermost link around it; the ray is tried on
  each target in turn, and the nearest hit in front of its origin wins, the
  earlier one among equals.
-/
import VrmlWorld.Number.Decimal
import VrmlWorld.Scene.Placement
import VrmlWorld.Viewer.Camera

namespace VrmlWorld

open VrmlWorld.Geometry

/-! ### Targets -/

/-- A shape that a ray can be tried on. -/
inductive Solid where
  | box (box : Box)
  | ball (ball : Ball)
deriving DecidableEq, Repr

namespace Solid

/-- The solid of a kind of node, if it can be picked. -/
def ofKind? : NodeKind → Option Solid
  | .cube cube => some (.box (.ofHalfExtents cube.halfExtents))
  | .sphere sphere => some (.ball ⟨.zero, sphere.radius⟩)
  | _ => none

/-- The least positive parameter at which a ray meets the surface. -/
def meet? : Solid → Ray → Option Float32
  | .box sides, ray => sides.meet? ray
  | .ball round, ray => round.meet? ray

end Solid

/-- A link around a target, and the matrix that placed it. -/
structure LinkFrame where
  node : NodeId
  anchor : Anchor
  matrix : Mat4
deriving DecidableEq, Repr

/-- A solid in its place, with the innermost link around it. -/
structure Target where
  node : NodeId
  solid : Solid
  matrix : Mat4
  link : Option LinkFrame
deriving DecidableEq, Repr

def LinkFrame.inside (link : Option LinkFrame) (node : NodeId) (kind : NodeKind) (matrix : Mat4) :
    Option LinkFrame :=
  match kind with
  | .anchor anchor => some ⟨node, anchor, matrix⟩
  | _ => link

/-- The targets from an occurrence on, in order, and the matrix that holds for
    the next sibling. -/
def Occurrence.targets (viewer : Vec3) :
    Occurrence → Option LinkFrame → Mat4 → Mat4 × List Target
  | .absent _, _, matrix => (matrix, [])
  | .node id kind arity child, link, matrix =>
      match kind with
      | .transform transform => (matrix * transform.matrix, [])
      | .matrixTransform own => (matrix * own, [])
      | _ =>
          if kind.isGroup then
            let link := LinkFrame.inside link id kind matrix
            let (_, found) := (shown kind arity matrix viewer).foldl
              (fun (inner, found) position =>
                let (inner, more) := targets viewer (child position) link inner
                (inner, found ++ more))
              (matrix, [])
            (matrix, found)
          else
            (matrix, ((Solid.ofKind? kind).map fun solid => ⟨id, solid, matrix, link⟩).toList)

/-- The targets of a scene as a viewer sees it. -/
def SceneGraph.targets (graph : SceneGraph) (viewer : Vec3) : List Target :=
  match graph.unfolding with
  | some root => (root.targets viewer none .identity).2
  | none => []

/-! ### Hits -/

structure Candidate where
  target : Target
  /-- From the origin of the ray, in units of the world. -/
  distance : Float32
  point : Vec3
deriving DecidableEq, Repr

/-- Tries a ray on a target, in the coordinates of the target. -/
def Target.candidate? (target : Target) (ray : Ray) : Option Candidate := do
  let inverse ← target.matrix.inverse?
  let own ← ray.mapped? inverse
  let parameter ← target.solid.meet? own
  let point := target.matrix.mapPoint (own.pointAt parameter)
  some ⟨target, (point - ray.origin).dot ray.direction, point⟩

/-- The better of the best hit so far and another one: one that is not in front
    of the origin never counts, and one that is not nearer changes nothing. -/
def Candidate.better (best : Option Candidate) (other : Candidate) : Option Candidate :=
  if other.distance ≤ 0 then best
  else
    match best with
    | some found => if found.distance ≤ other.distance then best else some other
    | none => some other

def Candidate.best (ray : Ray) (targets : List Target) : Option Candidate :=
  (targets.filterMap (·.candidate? ray)).foldl better none

structure AnchorLink where
  node : NodeId
  url : String
  description : String
  /-- The point that was hit, in the coordinates of the link, if the link asks
      for it. -/
  point : Option Vec3
deriving DecidableEq, Repr

/-- What to open: the target of the link, with the point as a query. -/
def AnchorLink.target (link : AnchorLink) : String :=
  match link.point with
  | some p =>
      link.url ++ "?" ++ ",".intercalate (p.toList.map Number.singleText)
  | none => link.url

/-- The link of a frame for a point of the world. -/
def LinkFrame.link (frame : LinkFrame) (point : Vec3) : AnchorLink where
  node := frame.node
  url := frame.anchor.url
  description := frame.anchor.description
  point :=
    match frame.anchor.map with
    | .point => frame.matrix.inverse?.map (·.mapPoint point)
    | .none => none

structure Hit where
  node : NodeId
  distance : Float32
  point : Vec3
  anchor : Option AnchorLink
deriving DecidableEq, Repr

def Candidate.hit (candidate : Candidate) : Hit where
  node := candidate.target.node
  distance := candidate.distance
  point := candidate.point
  anchor := candidate.target.link.map (·.link candidate.point)

/-- The nearest box or ball that a ray meets. The viewer's place decides which
    levels of detail are there to be met. -/
def SceneGraph.pickRay (graph : SceneGraph) (ray : Ray) (viewer : Vec3) : Option Hit :=
  (Candidate.best ray (graph.targets viewer)).map (·.hit)

/-- The nearest box or ball behind a place of the screen. -/
def SceneGraph.pick (graph : SceneGraph) (camera : Camera) (screen viewport : Vec2) : Option Hit :=
  (camera.rayThrough? screen viewport).bind fun ray => graph.pickRay ray camera.position

end VrmlWorld
