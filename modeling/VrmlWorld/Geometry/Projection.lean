/-
  VrmlWorld/Geometry/Projection.lean
  ==================================
  **Views and projections.**

  View space is right-handed and looks down the negative third axis; projected
  depths run from zero at the near plane to one at the far plane.
-/
import VrmlWorld.Geometry.Matrix

namespace VrmlWorld.Geometry.Mat4

def perspective (fov aspect near far : Float32) : Mat4 :=
  let ys := 1 / (fov * 0.5).tan
  let xs := ys / aspect
  let zs := far / (near - far)
  ofRows xs 0 0 0 0 ys 0 0 0 0 zs (zs * near) 0 0 (-1) 0

def orthographic (height aspect near far : Float32) : Mat4 :=
  let width := height * aspect
  let depth := near - far
  ofRows (2 / width) 0 0 0 0 (2 / height) 0 0 0 0 (1 / depth) (near / depth) 0 0 0 1

/-- The view from `eye` towards `target`, with `up` pointing upwards. -/
def lookAt (eye target up : Vec3) : Mat4 :=
  let forward := (target - eye).normalize
  let right := (forward.cross up).normalize
  let above := right.cross forward
  ofRows
      right.x right.y right.z 0
      above.x above.y above.z 0
      (-forward.x) (-forward.y) (-forward.z) 0
      0 0 0 1
    * translation (-eye)

end VrmlWorld.Geometry.Mat4
