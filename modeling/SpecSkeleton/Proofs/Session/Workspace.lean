import SpecSkeleton.Proofs.Uri.File
import SpecSkeleton.Session.Workspace

/-!
# Looking documents up

What a workspace gives for a URI after a document has been put into it, taken out of it or edited:
something new for the same document, the same as before for every other. For the URI of a rooted
path the document has this path, open or not (`document_ofPath`).
-/

namespace SpecSkeleton.Workspace

variable {w : Workspace} {u v : String}

theorem get?_remove : (w.remove u).get? v =
    if Percent.decode v = Percent.decode u then none else w.get? v := by
  unfold get? remove
  induction w with
  | nil => simp
  | cons entry w ih =>
    obtain ⟨key, d⟩ := entry
    by_cases hkey : key = Percent.decode u
    · subst hkey
      rw [List.filter_cons_of_neg (by simp), ih]
      split
      · rfl
      next h => rw [List.lookup_cons, beq_false_of_ne h]
    · rw [List.filter_cons_of_pos (by simpa using hkey), List.lookup_cons, List.lookup_cons, ih]
      by_cases hv : Percent.decode v = key
      · simp [hv, hkey]
      · simp [beq_false_of_ne hv]

theorem get?_put {d : Document} : (w.put u d).get? v =
    if Percent.decode v = Percent.decode u then some d else w.get? v := by
  have hremove := get?_remove (w := w) (u := u) (v := v)
  unfold get? at hremove ⊢
  rw [put, List.lookup_cons, hremove]
  by_cases h : Percent.decode v = Percent.decode u
  · simp [h]
  · simp [h, beq_false_of_ne h]

theorem get?_edit {text : String} : (w.edit u text).get? v =
    if Percent.decode v = Percent.decode u then
      (w.get? u).map fun d => { d with text := some text }
    else w.get? v := by
  cases h : w.get? u with
  | some d =>
    simp only [edit, h]
    exact get?_put
  | none =>
    simp only [edit, h]
    split
    next hv =>
      rw [get?, hv]
      exact h
    next => rfl

/-! ## Documents of rooted paths -/

/-- The workspace has the open documents of rooted paths, with the texts that `held` gives. -/
def Holds (w : Workspace) (held : String → Option String) : Prop :=
  ∀ p, IsRootedPath p → w.get? (Uri.ofPath p) = (held p).map fun text => ⟨p, some text⟩

theorem holds_nil : Holds [] fun _ => none :=
  fun _ _ => rfl

variable {held : String → Option String} {p : String}

theorem document_ofPath (h : w.Holds held) (hp : IsRootedPath p) :
    w.document (Uri.ofPath p) = .ok ⟨p, held p⟩ := by
  unfold document
  rw [h p hp]
  cases held p with
  | some text => rfl
  | none =>
    obtain ⟨cs, hcs⟩ := hp.exists_cons
    rw [Uri.ofString_ofPath hcs]
    simp [Except.map, Uri.documentPath_rooted hp]

theorem Holds.put (h : w.Holds held) (text : String) :
    (w.put (Uri.ofPath p) ⟨p, some text⟩).Holds fun q => if p = q then some text else held q := by
  intro q hq
  rw [get?_put, h q hq]
  by_cases hpq : p = q
  · subst hpq
    simp
  · simp [Uri.decode_ofPath_inj, hpq, Ne.symm hpq]

theorem Holds.remove (h : w.Holds held) :
    (w.remove (Uri.ofPath p)).Holds fun q => if p = q then none else held q := by
  intro q hq
  rw [get?_remove, h q hq]
  by_cases hpq : p = q
  · subst hpq
    simp
  · simp [Uri.decode_ofPath_inj, hpq, Ne.symm hpq]

theorem Holds.edit (h : w.Holds held) (hp : IsRootedPath p) (text : String) :
    (w.edit (Uri.ofPath p) text).Holds fun q =>
      if p = q then (held p).map fun _ => text else held q := by
  intro q hq
  rw [get?_edit, h q hq, h p hp]
  by_cases hpq : p = q
  · subst hpq
    cases held p <;> simp
  · simp [Uri.decode_ofPath_inj, hpq, Ne.symm hpq]

end SpecSkeleton.Workspace
