/-!
What is left of a text after a part of it has been read. A reader answers with the rest of what it
was given. Where reading goes on from there, the rest is taken as an end of the given text, so that
it is never longer than that.
-/

set_option autoImplicit false
namespace ObjectGraph.Declaration

/-- The end of a text that is as long as the rest. A rest that a reader left is this end. -/
def endLike {α : Type} (text rest : List α) : List α :=
  text.drop (text.length - rest.length)

def takenFrom {α : Type} (text rest : List α) : List α :=
  text.take (text.length - rest.length)

theorem length_endLike_le {α : Type} (text rest : List α) :
    (endLike text rest).length ≤ text.length := by
  simp only [endLike, List.length_drop]
  omega

theorem endLike_append {α : Type} (read rest : List α) : endLike (read ++ rest) rest = rest := by
  simp [endLike]

end ObjectGraph.Declaration
