import FalconPmu.Firmware.Loader

namespace FalconPmu

structure NumberedBlob where
  name : String
  number : Nat
  content : Bytes
  deriving DecidableEq

instance : Blob NumberedBlob := ⟨NumberedBlob.content⟩

structure Shelf where
  entries : List (String × Bytes)
  handedOut : Nat

namespace Shelf

def request (name : String) (s : Shelf) : Option NumberedBlob × Shelf :=
  match s.entries.lookup name with
  | none => (none, s)
  | some content =>
    (some ⟨name, s.handedOut + 1, content⟩, { s with handedOut := s.handedOut + 1 })

instance : Loader Shelf NumberedBlob where
  request := request
  release _ s := s

def set (name : String) (content : Option Bytes) (s : Shelf) : Shelf :=
  let others := s.entries.filter (fun e => e.1 != name)
  match content with
  | none => { s with entries := others }
  | some content => { s with entries := (name, content) :: others }

end Shelf

end FalconPmu
