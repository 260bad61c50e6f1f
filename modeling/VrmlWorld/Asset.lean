/-
  VrmlWorld/Asset.lean
  ====================
  **What can go wrong with documents and images, and what a host provides.**

  The interpreter does no input or output of its own. Texts of documents,
  textures and rasterized lettering come from a host, which either answers or
  gives one of the causes below.
-/

namespace VrmlWorld

/-- Why a document or an image is not available. -/
inductive AssetError where
  /-- The file system refused, with its own words. -/
  | io (reason : String)
  | notFound (place : String)
  | invalidLocation (reason : String)
  | noRootNode
  | fetch (reason : String)
  | decode (reason : String)
  | unsupported (reason : String)
deriving DecidableEq, Repr

def AssetError.message : AssetError → String
  | io reason => "IO error: " ++ reason
  | notFound place => "Asset not found: " ++ place
  | invalidLocation reason => "Invalid location: " ++ reason
  | noRootNode => "Document has no root node"
  | fetch reason => "Fetch failed: " ++ reason
  | decode reason => "Decode failed: " ++ reason
  | unsupported reason => "Unsupported: " ++ reason

/-- A texture that the host owns; the interpreter only passes it around. -/
structure TextureHandle where
  number : UInt64
deriving DecidableEq, Repr

end VrmlWorld
