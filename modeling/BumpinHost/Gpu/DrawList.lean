import BumpinHost.Library.ByteMemory

/-!
# Draw commands and the double-buffered frame list

The pump thread adds commands to a building list, a swap moves that list to the
ready list when it is not empty, and the render thread takes the ready list.
The list is generic in its commands, so that a proof may attach what it needs to
remember about a command without a second definition of the list.
-/

namespace BumpinHost.Gpu

inductive DrawPrimitiveType
  | point
  | line
  | lineStrip
  | triangle
  | triangleStrip
deriving DecidableEq, Repr

/-- One fully resolved draw. -/
structure DrawCommand where
  primitiveType : DrawPrimitiveType
  vertexData : List Byte
  vertexCount : Word
  indexData : List Byte
  indexCount : Word
  indexIs32Bit : Bool
deriving DecidableEq, Repr

structure FrameDrawList (Command : Type) where
  building : List Command
  ready : List Command
deriving DecidableEq, Repr

namespace FrameDrawList

variable {Command : Type}

def empty : FrameDrawList Command := ⟨[], []⟩

def addDrawCommand (list : FrameDrawList Command) (cmd : Command) :
    FrameDrawList Command :=
  { list with building := list.building ++ [cmd] }

/-- An empty building list leaves the ready list untouched. -/
def swapReady (list : FrameDrawList Command) : FrameDrawList Command :=
  { building := []
    ready := if list.building.isEmpty then list.ready else list.building }

/-- The ready list, and the list after it has been taken. -/
def takeReady (list : FrameDrawList Command) :
    List Command × FrameDrawList Command :=
  (list.ready, { list with ready := [] })

/-- Every command the list still holds. -/
def pending (list : FrameDrawList Command) : List Command :=
  list.ready ++ list.building

theorem mem_pending_addDrawCommand {list : FrameDrawList Command}
    {cmd member : Command} (held : member ∈ (list.addDrawCommand cmd).pending) :
    member ∈ list.pending ∨ member = cmd := by
  simp only [pending, addDrawCommand, List.mem_append, List.mem_singleton] at held ⊢
  tauto

/-- A swap only drops or moves commands. -/
theorem mem_pending_swapReady {list : FrameDrawList Command} {member : Command}
    (held : member ∈ list.swapReady.pending) : member ∈ list.pending := by
  simp only [pending, swapReady, List.append_nil] at held
  simp only [pending, List.mem_append]
  split at held
  · exact Or.inl held
  · exact Or.inr held

theorem mem_pending_takeReady {list : FrameDrawList Command} {member : Command}
    (held : member ∈ list.takeReady.2.pending) : member ∈ list.pending := by
  simp only [pending, takeReady, List.nil_append] at held
  simp only [pending, List.mem_append]
  exact Or.inr held

theorem mem_pending_of_mem_taken {list : FrameDrawList Command} {member : Command}
    (taken : member ∈ list.takeReady.1) : member ∈ list.pending := by
  simp only [takeReady] at taken
  simp only [pending, List.mem_append]
  exact Or.inl taken

end FrameDrawList

end BumpinHost.Gpu
