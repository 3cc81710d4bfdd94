import FalconPmu.Bytes.LittleEndian

namespace FalconPmu

class Blob (B : Type) where
  bytes : B → Bytes

class Loader (L : Type) (B : outParam Type) where
  request : String → L → Option B × L
  release : B → L → L

namespace Loader

inductive Event (B : Type) where
  | missing (name : String)
  | handedOut (name : String) (blob : B)
  | returned (blob : B)
  deriving DecidableEq

def Event.apply {B : Type} [DecidableEq B] : Event B → List B → Option (List B)
  | missing _, held => some held
  | handedOut _ blob, held => some (blob :: held)
  | returned _, [] => none
  | returned blob, newest :: held => if blob = newest then some held else none

/-- The blobs handed out and not returned, newest first, if every blob was returned before those
handed out earlier. -/
def outstanding {B : Type} [DecidableEq B] (es : List (Event B)) : Option (List B) :=
  es.foldlM (fun held e => e.apply held) []

structure Traced (L B : Type) where
  loader : L
  events : List (Event B)

instance {L B : Type} [Loader L B] : Loader (Traced L B) B where
  request name t :=
    let (b, l) := Loader.request name t.loader
    let event := match b with
      | some b => .handedOut name b
      | none => .missing name
    (b, ⟨l, t.events ++ [event]⟩)
  release b t := ⟨Loader.release b t.loader, t.events ++ [.returned b]⟩

end Loader

end FalconPmu
