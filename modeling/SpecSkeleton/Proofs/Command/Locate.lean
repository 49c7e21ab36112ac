import Mathlib.Data.List.TakeWhile
import SpecSkeleton.Command.Locate
import SpecSkeleton.Proofs.Node.Enclosing
import SpecSkeleton.Proofs.Outline.Openings

/-!
# What encloses a line of a spec file

`Opening.chainTo` is read off the rows of a text alone: the last opening at or before a line under
the nearest less indented openings before it. `locate_chainTo` says that the search through the
forest of a text for what encloses a line finds this chain, and that the command reports it.
-/

namespace SpecSkeleton

/-- The last opening at or before a line, after the nearest one before it that is indented less,
and so on; outermost first. -/
def Opening.chainTo (os : List Opening) (line : Nat) : List Opening :=
  match os.reverse.dropWhile fun o => line < o.row + 1 with
  | [] => []
  | o :: earlier => (o :: shallower Opening.indent o.indent earlier).reverse

/-- Either no opening stands at or before the line, or a last one does and ends the chain. -/
theorem Opening.chainTo_cases (os : List Opening) (line : Nat) :
    ((∀ o ∈ os, line < o.row + 1) ∧ chainTo os line = []) ∨
      ∃ before o later, os = before ++ o :: later ∧ o.row + 1 ≤ line ∧
        (∀ q ∈ later, line < q.row + 1) ∧
        chainTo os line = (o :: shallower Opening.indent o.indent before.reverse).reverse := by
  unfold chainTo
  cases hd : os.reverse.dropWhile fun o => decide (line < o.row + 1) with
  | nil =>
    refine .inl ⟨fun o ho => ?_, rfl⟩
    simpa using List.dropWhile_eq_nil_iff.mp hd o (List.mem_reverse.mpr ho)
  | cons o earlier =>
    let skipped := os.reverse.takeWhile fun o => decide (line < o.row + 1)
    have hsplit : skipped ++ o :: earlier = os.reverse := by
      rw [← hd, List.takeWhile_append_dropWhile]
    have hstop := List.head?_dropWhile_not (fun o : Opening => decide (line < o.row + 1)) os.reverse
    rw [hd] at hstop
    refine .inr ⟨earlier.reverse, o, skipped.reverse, ?_, by simpa using hstop, fun q hq => ?_,
      by rw [List.reverse_reverse]⟩
    · rw [← List.reverse_reverse os, ← hsplit, List.reverse_append, List.reverse_cons,
        List.append_assoc, List.singleton_append]
    · simpa using List.all_eq_true.mp List.all_takeWhile q (List.mem_reverse.mp hq)

section
variable {text file : String} {roots : Forest}

/-! ## The forest of a text -/

theorem nodes_pairwise_iff {f : Forest} :
    (f.nodes.Pairwise fun a b => a.line < b.line) ↔
      (f.walk []).Pairwise fun a b => a.2.line < b.2.line := by
  rw [ascending_iff, List.pairwise_map]
  simp [Node.line]

theorem lines_of_parse (h : parse .standard text file = .ok roots) :
    roots.nodes.map Node.line = (openings text).map fun o => o.row + 1 := by
  have hlines := congrArg (List.map Node.line) (leaves_of_parse h)
  rw [List.map_map, List.map_map] at hlines
  exact hlines

/-- The lines of a parse ascend in source order. -/
theorem nodes_pairwise_of_parse (h : parse .standard text file = .ok roots) :
    roots.nodes.Pairwise fun a b => a.line < b.line := by
  have hrows : ((openings text).map fun o => o.row + 1).Pairwise (· < ·) := by
    rw [List.pairwise_map]
    exact (openings_pairwise text).imp Nat.succ_lt_succ
  rw [← lines_of_parse h] at hrows
  exact List.pairwise_map.mp hrows

/-- The node of an opening, and its lineage. -/
theorem lineage_of_parse (h : parse .standard text file = .ok roots) {i : Nat} {o : Opening}
    (ho : (openings text)[i]? = some o) :
    ∃ n c, roots.nodes[i]? = some n ∧ n.line = o.row + 1 ∧
      (Forest.lineages roots)[i]? = some c ∧
      c.map Node.leaf =
        ((o :: shallower Opening.indent o.indent ((openings text).take i).reverse).reverse).map
          (Opening.leaf file) := by
  have hnested : Forest.NestedBy (rowIndent text) roots := by
    rw [eq_of_parse h]
    exact (outline_nestedBy text file).1
  have hline := congrArg (·[i]?) (lines_of_parse h)
  simp only [List.getElem?_map, ho, Option.map_some] at hline
  obtain ⟨n, hn, hline⟩ := Option.map_eq_some_iff.mp hline
  have hlen : i < (Forest.lineages roots).length := by
    rw [Forest.lineages_length]
    exact (List.getElem?_eq_some_iff.mp hn).1
  have hc := List.getElem?_eq_getElem hlen
  have hlineage := lineage_of_opening hnested (leaves_of_parse h)
    (fun _ => indent_of_mem_openings) ho hc
  refine ⟨n, _, hn, hline, hc, ?_⟩
  rw [List.map_reverse, ← hlineage, List.reverse_reverse]

/-- What encloses a line of a text is the chain of openings to it. -/
theorem enclosing_of_parse (h : parse .standard text file = .ok roots) (line : Nat) :
    (roots.enclosing line).map Node.leaf =
      (Opening.chainTo (openings text) line).map (Opening.leaf file) := by
  have hlines := lines_of_parse h
  have hsorted := nodes_pairwise_of_parse h
  obtain ⟨hlater, hchain⟩ | ⟨before, o, later, hsplit, hle, hlater, hchain⟩ :=
    Opening.chainTo_cases (openings text) line
  · have hnone : roots.enclosing line = [] := by
      rw [Forest.enclosing_eq_nil_iff hsorted]
      intro n hn
      have hmem : n.line ∈ (openings text).map fun o => o.row + 1 :=
        hlines ▸ List.mem_map_of_mem hn
      obtain ⟨o, ho, hline⟩ := List.mem_map.mp hmem
      have := hlater o ho
      omega
    rw [hnone, hchain]
    rfl
  · have ho : (openings text)[before.length]? = some o := by
      rw [hsplit, List.getElem?_append_right (Nat.le_refl _)]
      simp
    have htake : (openings text).take before.length = before := by
      rw [hsplit, List.take_left']
      rfl
    have hdrop : (roots.nodes.drop (before.length + 1)).map Node.line =
        later.map fun o => o.row + 1 := by
      rw [List.map_drop, hlines, ← List.map_drop, hsplit, List.drop_append]
      simp
    obtain ⟨n, c, hn, hline, hc, hlineage⟩ := lineage_of_parse h ho
    have henclosing : roots.enclosing line = c := by
      refine Forest.enclosing_of_getElem? hsorted hc hn (by omega) fun m hm => ?_
      have hmem := List.mem_map_of_mem (f := Node.line) hm
      rw [hdrop] at hmem
      obtain ⟨q, hq, hline⟩ := List.mem_map.mp hmem
      have := hlater q hq
      omega
    rw [henclosing, hchain, hlineage, htake]

end

namespace Command

/-! ## The command -/

theorem failing_exit (message : String) : (Outcome.failing message).exit ≠ .code 0 := by
  unfold Outcome.failing
  split
  · simp
  · simp [Outcome.crash]

/-- What is reported of a chain of openings. -/
def reportOf (p : FilePath) (line : Nat) (chain : List Opening) : Outcome :=
  match chain.getLast? with
  | none => .failing (Diagnostic.aboutSpec "no RSpec node encloses this line" p (some line)).text
  | some o =>
    .printing <| uncoloured <|
      Outcome.line (" > ".intercalate (chain.map fun o => declaredName o.kind o.naming)) ++
        Outcome.line s!"{p}:{o.row + 1}"

theorem reportOf_exit (p : FilePath) (line : Nat) (os : List Opening) :
    (reportOf p line (Opening.chainTo os line)).exit ≠ .code 0 ↔ ∀ o ∈ os, line < o.row + 1 := by
  obtain ⟨hlater, hchain⟩ | ⟨before, o, later, rfl, hle, -, hchain⟩ := Opening.chainTo_cases os line
  · rw [hchain]
    exact iff_of_true (failing_exit _) hlater
  · have hlast : (Opening.chainTo (before ++ o :: later) line).getLast? = some o := by
      rw [hchain, List.getLast?_reverse]
      rfl
    rw [reportOf, hlast]
    refine iff_of_false (fun h => h rfl) fun h => ?_
    have := h o (by simp)
    omega

theorem locatedIn_of_parse {text : String} {p : FilePath} {roots : Forest}
    (h : parse .standard text p.toString = .ok roots) (line : Nat) :
    locatedIn p line roots = reportOf p line (Opening.chainTo (openings text) line) := by
  have hchain := enclosing_of_parse h line
  have hnames : (roots.enclosing line).map Node.name =
      (Opening.chainTo (openings text) line).map fun o => declaredName o.kind o.naming := by
    have hmap := congrArg (List.map Node.name) hchain
    rw [List.map_map, List.map_map] at hmap
    exact hmap
  have hlast : (roots.enclosing line).getLast?.map Node.line =
      (Opening.chainTo (openings text) line).getLast?.map fun o => o.row + 1 := by
    have hmap := congrArg (fun c => (c.map Node.line).getLast?) hchain
    simp only [List.map_map, List.getLast?_map] at hmap
    exact hmap
  rw [locatedIn, reportOf, hnames]
  cases ho : (Opening.chainTo (openings text) line).getLast? with
  | none =>
    rw [ho, Option.map_none, Option.map_eq_none_iff] at hlast
    rw [hlast]
  | some o =>
    rw [ho, Option.map_some] at hlast
    obtain ⟨n, hn, hline⟩ := Option.map_eq_some_iff.mp hlast
    simp only [hn, hline]

section
variable {h : SettingsHost} {found : Except SettingsFault Settings} {settings : Settings}
  {p : FilePath} {text : String} {line : Nat}

/-- On a spec file that can be read, a line of it is looked up among its openings. -/
theorem locate_eq_reportOf (hfound : found = .ok settings)
    (hspec : isSpecPath settings.specSuffix p.toString = true) (hread : h.readText p = .ok text)
    (hline : line ≤ (Text.rows text.toList).length) :
    locate .standard h found p line =
      (reportOf p line (Opening.chainTo (openings text) line)).logging
        (parseJournal .standard text p.toString) := by
  have hparse := parse_standard text p.toString
  have hlocated : locatedInText .standard p line text =
      (reportOf p line (Opening.chainTo (openings text) line)).logging
        (parseJournal .standard text p.toString) := by
    rw [locatedInText, if_neg (Nat.not_lt.mpr hline), hparse, ← locatedIn_of_parse hparse]
  rw [locate, hfound, withSettings, requiringSpecFile, if_pos hspec, hread]
  exact hlocated

end

/-- If the lines of a forest ascend in source order, then what encloses a line are the ancestors of
the last node at or before it. The lines of a parse do ascend, and what is reported of a line of a
spec file is the last opening at or before it under its chain; this fails just when there is none.
-/
theorem locate_chainTo :
    (∀ roots : Forest, ((roots.walk []).Pairwise fun a b => a.2.line < b.2.line) →
      ∀ line : Int,
        (roots.enclosing line = [] ↔ ∀ e ∈ roots.walk [], line < e.2.line) ∧
          ∀ p n, (roots.walk []).reverse.find? (fun e => e.2.line ≤ line) = some (p, n) →
            roots.ancestors p = .ok (roots.enclosing line)) ∧
      (∀ text file roots, parse .standard text file = .ok roots →
        (roots.walk []).Pairwise fun a b => a.2.line < b.2.line) ∧
      ∀ (h : SettingsHost) (found : Except SettingsFault Settings) (settings : Settings)
        (p : FilePath) (text : String) (line : Nat), found = .ok settings →
        isSpecPath settings.specSuffix p.toString = true → h.readText p = .ok text →
          line ≤ (Text.rows text.toList).length →
            ((locate .standard h found p line).exit ≠ .code 0 ↔
                ∀ o ∈ openings text, line < o.row + 1) ∧
              locate .standard h found p line =
                (reportOf p line (Opening.chainTo (openings text) line)).logging
                  (parseJournal .standard text p.toString) := by
  refine ⟨fun roots hsorted line => ⟨?_, fun p n hlast => ?_⟩, fun text file roots hparse => ?_, ?_⟩
  · rw [Forest.enclosing_eq_nil_iff (nodes_pairwise_iff.mpr hsorted), ← Forest.walk_snd roots []]
    exact List.forall_mem_map
  · exact Forest.ancestors_of_last (nodes_pairwise_iff.mpr hsorted) hlast
  · exact nodes_pairwise_iff.mp (nodes_pairwise_of_parse hparse)
  · intro h found settings p text line hfound hspec hread hline
    have hlocate := locate_eq_reportOf hfound hspec hread hline
    refine ⟨?_, hlocate⟩
    rw [hlocate]
    exact reportOf_exit p line (openings text)

/-- The end of an example is reported under the example and the group around it. -/
theorem locate_chainTo_group :
    ∃ (h : SettingsHost) (p : FilePath) (group inner : Opening) (roots : Forest),
      h.readText p = .ok "describe \"A\" do\n  it \"b\" do\n  end\nend" ∧
        group.row = 0 ∧ group.kind = .describe ∧ inner.row = 1 ∧ inner.kind = .it ∧
        (locate .standard h (.ok .default) p 3).exit = .code 0 ∧
        locate .standard h (.ok .default) p 3 =
          (reportOf p 3 [group, inner]).logging
            (parseJournal .standard "describe \"A\" do\n  it \"b\" do\n  end\nend" p.toString) ∧
        roots.enclosing 3 ≠ [] ∧ roots.ancestors [0, 0] = .ok (roots.enclosing 3) := by
  let text := "describe \"A\" do\n  it \"b\" do\n  end\nend"
  let bytes := text.toList.map fun c => UInt8.ofNat c.toNat
  let h : SettingsHost :=
    ⟨⟨.directory [("a_spec.rb", .file bytes)], ⟨.slash, []⟩⟩, none, Toml.read⟩
  let p : FilePath := ⟨.relative, ["a_spec.rb"]⟩
  let group : Opening := ⟨0, .describe, 0, "\"A\" do".toList⟩
  let inner : Opening := ⟨1, .it, 2, "\"b\" do".toList⟩
  let leaf : Node := ⟨.it, "b", 1, "a_spec.rb", []⟩
  let roots : Forest := [⟨.describe, "A", 0, "a_spec.rb", [leaf]⟩]
  have hread : h.readText p = .ok text := by
    have hnull : p.hasNull = false := by simp [FilePath.hasNull, p]
    have hfind : h.find p = .ok (.file bytes) := by rfl
    have hdecode : Text.Utf8.decode bytes = .ok text.toList := by decide
    have hfold : Text.foldNewlines text.toList = text.toList := by decide
    rw [Surroundings.readText, hnull, hfind, if_neg (by decide)]
    simp only [hdecode, hfold, String.ofList_toList]
  have hchain : Opening.chainTo (openings text) 3 = [group, inner] := by decide
  obtain ⟨hforest, -, hlocate⟩ := locate_chainTo
  obtain ⟨hnil, hlast⟩ := hforest roots (by decide) 3
  obtain ⟨hexit, heq⟩ := hlocate h _ .default p text 3 rfl (by decide) hread (by decide)
  refine ⟨h, p, group, inner, roots, hread, rfl, rfl, rfl, rfl, ?_, ?_, ?_, ?_⟩
  · by_contra hfails
    exact absurd (hexit.mp hfails) (by decide)
  · rw [heq, hchain]
  · rw [ne_eq, hnil]
    decide
  · exact hlast [0, 0] leaf rfl

end Command

end SpecSkeleton
