import Mathlib.Data.List.TakeWhile
import SpecSkeleton.File.Path
import SpecSkeleton.Proofs.Uri.Percent
import SpecSkeleton.Uri.Basic

/-!
# URIs of files

The URI of an absolute path leads back to this path, under every name a document may get from it:
the path of the file (`filePath?_ofPath`), and the key in a workspace (`decode_ofPath`), which two
paths never share (`decode_ofPath_inj`). A path whose first name starts with a drive letter and a
colon is left out: it comes back without its slash.
-/

namespace SpecSkeleton

/-- A path from the root, written as paths are, that does not start with a drive letter. -/
structure IsRootedPath (p : String) : Prop where
  root : (FilePath.ofString p).root = .slash
  normal : (FilePath.ofString p).toString = p
  noDrive : Uri.drivePath? p = none

namespace IsRootedPath

variable {p : String}

theorem exists_cons (h : IsRootedPath p) : ∃ cs, p.toList = '/' :: cs := by
  obtain ⟨hroot, hnormal, -⟩ := h
  rw [FilePath.toString, hroot, if_neg (by simp)] at hnormal
  exact ⟨_, by rw [← hnormal, String.toList_append]; rfl⟩

theorem ne_empty (h : IsRootedPath p) : p.isEmpty = false := by
  obtain ⟨cs, hcs⟩ := h.exists_cons
  rw [Bool.eq_false_iff]
  intro hp
  rw [String.isEmpty_iff.mp hp] at hcs
  cases hcs

theorem isAbsolute (h : IsRootedPath p) : (FilePath.ofString p).isAbsolute = true := by
  rw [FilePath.isAbsolute, h.root]
  rfl

end IsRootedPath

namespace Uri

/-! ## The key of a document -/

theorem decode_ofPath (p : String) : Percent.decode (ofPath p) = "file://" ++ p :=
  Percent.decode_append_encode "file://".toList (by simp) p

theorem decode_ofPath_inj {p q : String} :
    Percent.decode (ofPath p) = Percent.decode (ofPath q) ↔ p = q := by
  rw [decode_ofPath, decode_ofPath, String.append_right_inj]

theorem ofPath_inj {p q : String} : ofPath p = ofPath q ↔ p = q :=
  ⟨fun h => decode_ofPath_inj.mp (congrArg Percent.decode h), congrArg ofPath⟩

/-! ## The parts of a URI -/

theorem ofPath_toList (p : String) :
    (ofPath p).toList =
      'f' :: 'i' :: 'l' :: 'e' :: ':' :: '/' :: '/' :: (Percent.encode p).toList := by
  rw [ofPath, String.toList_append]
  rfl

/-- No sign of an encoded path is left out or ends the path. -/
theorem not_special_of_mem_encode {p : String} {c : Char} (h : c ∈ (Percent.encode p).toList) :
    isLineOrTab c = false ∧ (c != '#') = true ∧ (c != '?') = true := by
  have hne {d : Char} (hd : Percent.isPlain d = false) (hpercent : d ≠ '%') : c ≠ d := by
    obtain hc | rfl := Percent.mem_encode h
    · exact Percent.ne_of_isPlain hc hd
    · exact hpercent.symm
  have htab := hne (d := '\t') (by decide) (by decide)
  have hreturn := hne (d := '\r') (by decide) (by decide)
  have hfeed := hne (d := '\n') (by decide) (by decide)
  have hnumber := hne (d := '#') (by decide) (by decide)
  have hquestion := hne (d := '?') (by decide) (by decide)
  simp [isLineOrTab, htab, hreturn, hfeed, hnumber, hquestion]

theorem encode_cons {p : String} {cs : List Char} (h : p.toList = '/' :: cs) :
    ∃ es, (Percent.encode p).toList = '/' :: es := by
  exact ⟨_, by rw [Percent.encode, h, List.flatMap_cons, String.toList_ofList]; rfl⟩

/-- A path from the root is the path part of its URI, which has no host. -/
theorem ofString_ofPath {p : String} {cs : List Char} (h : p.toList = '/' :: cs) :
    ofString (ofPath p) = .ok ⟨"file", "", p⟩ := by
  obtain ⟨es, hes⟩ := encode_cons h
  have hspecial : ∀ c ∈ '/' :: es, isLineOrTab c = false ∧ (c != '#') = true ∧ (c != '?') = true :=
    fun c hc => not_special_of_mem_encode (hes ▸ hc)
  have hkept : ('/' :: es).filter (fun c => !isLineOrTab c) = '/' :: es :=
    List.filter_eq_self.mpr fun c hc => by rw [(hspecial c hc).1]; rfl
  have hclean : ((ofPath p).toList.dropWhile isLeadingBlank).filter (fun c => !isLineOrTab c) =
      "file://".toList ++ '/' :: es := by
    rw [ofPath_toList, hes]
    exact congrArg ("file://".toList ++ ·) hkept
  have hpart : (('/' :: es).takeWhile (· != '#')).takeWhile (· != '?') = '/' :: es := by
    rw [List.takeWhile_eq_self_iff.mpr fun c hc => (hspecial c hc).2.1,
      List.takeWhile_eq_self_iff.mpr fun c hc => (hspecial c hc).2.2]
  have hscheme : splitScheme ("file://".toList ++ '/' :: es) =
      ("file".toList, '/' :: '/' :: '/' :: es) := rfl
  have hhost : splitHost ('/' :: '/' :: '/' :: es) = ([], '/' :: es) := rfl
  have hread : Percent.decode (String.ofList ('/' :: es)) = p := by
    rw [← hes, String.ofList_toList, Percent.decode_encode]
  have hnoHost : hostFault? [] = none := rfl
  have hnoParameters : schemesWithParameters.contains (String.ofList "file".toList) = false := by
    decide
  have hfile : Percent.decode (String.ofList "file".toList) = "file" := by decide
  have hempty : Percent.decode (String.ofList []) = "" := rfl
  simp only [ofString, hclean, hscheme, hhost, hpart, hnoHost, hnoParameters, Bool.false_eq_true,
    if_false, hfile, hempty, hread]

theorem filePath?_rooted {p : String} (h : IsRootedPath p) :
    filePath? ⟨"file", "", p⟩ = some p := by
  simp [filePath?, h.noDrive]

theorem documentPath_rooted {p : String} (h : IsRootedPath p) :
    documentPath ⟨"file", "", p⟩ = p := by
  rw [documentPath, filePath?_rooted h]
  rfl

end Uri

end SpecSkeleton
