import VrmlWorld.Main
import VrmlWorld.Scene.Order
import VrmlWorld.Proofs.Scene.Lookup
import VrmlWorld.Proofs.Scene.WellFormed
import VrmlWorld.Proofs.Document.Storing
import VrmlWorld.Proofs.Scene.Splice
import VrmlWorld.Proofs.Viewer.Walk
import VrmlWorld.Proofs.Scene.Updates
import VrmlWorld.Proofs.Document.Reading
import VrmlWorld.Proofs.Render.Visits
import VrmlWorld.Proofs.Viewer.Agreement
import VrmlWorld.Proofs.Document.Spelling
import VrmlWorld.Proofs.Document.ReadingBack
import VrmlWorld.Proofs.Document.Wordings
import VrmlWorld.Proofs.Document.Forms
import VrmlWorld.Proofs.Document.Inverse
import VrmlWorld.Proofs.Document.AsRead
import VrmlWorld.Proofs.Render.Requests
import VrmlWorld.Proofs.Viewer.Accounts
import VrmlWorld.Proofs.Viewer.Fetches
import VrmlWorld.Proofs.Viewer.Runs
import VrmlWorld.Proofs.Viewer.Settling
import VrmlWorld.Proofs.Render.Histories
import VrmlWorld.Proofs.Render.Memory
import VrmlWorld.Proofs.Render.Repeats
import VrmlWorld.Proofs.Render.Leaks
import VrmlWorld.Proofs.Render.Recollection
import VrmlWorld.Proofs.Scene.Origins
import VrmlWorld.Proofs.Render.Textures
import VrmlWorld.Proofs.Render.Answers
import VrmlWorld.Proofs.Viewer.Likeness
import VrmlWorld.Proofs.Viewer.Isolation
import VrmlWorld.Proofs.Render.References
import VrmlWorld.Proofs.Viewer.Journal
import VrmlWorld.Proofs.Render.Inlining
import VrmlWorld.Proofs.Viewer.Growth
import VrmlWorld.Proofs.Viewer.Viewpoints
import VrmlWorld.Proofs.Document.LineBreaks
import VrmlWorld.Proofs.Document.Passages
import VrmlWorld.Proofs.Document.EndOfFile
import VrmlWorld.Proofs.Number.Order
import VrmlWorld.Proofs.Viewer.Nearest
import VrmlWorld.Proofs.Viewer.Heading
import VrmlWorld.Proofs.Scene.Enclosure
import VrmlWorld.Proofs.Render.Scoping
import VrmlWorld.Proofs.Tessellation.Faces
import VrmlWorld.Proofs.Scene.Grafting
import VrmlWorld.Proofs.Render.Efforts
import VrmlWorld.Proofs.Viewer.Renaming
import VrmlWorld.Proofs.Document.Childless
import VrmlWorld.Proofs.Viewer.OpenedRoots
import VrmlWorld.Proofs.Tessellation.Lines
import VrmlWorld.Proofs.Tessellation.Bindings
import VrmlWorld.Proofs.Document.Marks
import VrmlWorld.Proofs.Document.Ledger
import VrmlWorld.Proofs.Document.Turns
import VrmlWorld.Proofs.Document.Lookahead
import VrmlWorld.Proofs.Document.Braces
import VrmlWorld.Proofs.Document.Roots
import VrmlWorld.Proofs.Document.Placeholders
import VrmlWorld.Proofs.Viewer.Transparency
import VrmlWorld.Proofs.Viewer.Links
import VrmlWorld.Proofs.Location.Chains
import VrmlWorld.Proofs.Location.Composition
import VrmlWorld.Proofs.Viewer.Activation
import VrmlWorld.Proofs.Viewer.Gestures
import VrmlWorld.Proofs.Text.Runs
import VrmlWorld.Proofs.Document.Images
import VrmlWorld.Proofs.Geometry.Slabs
import VrmlWorld.Proofs.Scene.Levels
import VrmlWorld.Proofs.Viewer.Sendings
import VrmlWorld.Proofs.Render.Coloring
