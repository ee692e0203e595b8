import Mathlib.Data.List.DropRight

/-! Python strings. -/

namespace GhostMeter.Lib.PyString

/-- `c.isspace()`. -/
def isSpace (c : Char) : Bool :=
  ('\t' ≤ c && c ≤ '\r') || ('\x1c' ≤ c && c ≤ ' ') || c = '\u0085' || c = '\u00a0' ||
    c = '\u1680' || ('\u2000' ≤ c && c ≤ '\u200a') || c = '\u2028' || c = '\u2029' ||
    c = '\u202f' || c = '\u205f' || c = '\u3000'

/-- `s.strip()`. -/
def strip (s : String) : String :=
  String.ofList ((s.toList.dropWhile isSpace).reverse.dropWhile isSpace).reverse

theorem mem_dropWhile {p : Char → Bool} {c : Char} {cs : List Char} (hc : c ∈ cs) (h : ¬ p c) :
    c ∈ cs.dropWhile p := by
  induction cs with
  | nil => cases hc
  | cons d cs ih =>
    rw [List.dropWhile_cons]
    split
    next hd => exact ih ((List.mem_cons.1 hc).resolve_left fun heq => h (heq ▸ hd))
    next => exact hc

/-- Only blank text is stripped to nothing. -/
theorem strip_ne_empty {s : String} {c : Char} (hc : c ∈ s.toList) (h : ¬ isSpace c) :
    strip s ≠ "" := by
  intro hstrip
  have hmem := mem_dropWhile (List.mem_reverse.2 (mem_dropWhile hc h)) h
  have hnil : ((s.toList.dropWhile isSpace).reverse.dropWhile isSpace).reverse = [] := by
    rw [← String.toList_ofList (l := List.reverse _)]
    exact congrArg String.toList hstrip
  rw [List.reverse_eq_nil_iff.1 hnil] at hmem
  cases hmem

theorem strip_eq_rdropWhile (s : String) :
    strip s = String.ofList ((s.toList.dropWhile isSpace).rdropWhile isSpace) := rfl

/-- A text that is stripped stays as it is. -/
theorem strip_strip (s : String) : strip (strip s) = strip s := by
  have hleft : ((s.toList.dropWhile isSpace).rdropWhile isSpace).dropWhile isSpace =
      (s.toList.dropWhile isSpace).rdropWhile isSpace := by
    rw [List.dropWhile_eq_self_iff]
    intro hpos
    -- what is left begins where the text begins, after its blanks
    have hstart := List.rdropWhile_prefix isSpace (s.toList.dropWhile isSpace)
    rw [hstart.getElem hpos]
    exact List.dropWhile_get_zero_not isSpace s.toList (hpos.trans_le hstart.length_le)
  rw [strip_eq_rdropWhile (strip s), strip_eq_rdropWhile s, String.toList_ofList, hleft,
    List.rdropWhile_idempotent]

end GhostMeter.Lib.PyString
