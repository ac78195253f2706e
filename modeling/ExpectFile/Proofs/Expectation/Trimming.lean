import ExpectFile.Expectation

/-!
# Trimming once is enough

What a tolerant assertion stands for is a text in a form of its own: no line ends in a blank, and
the last line is not empty unless it is the only one. A text in that form is left as it is.

* **`pieces_joined`** — lines that are put together are cut at the same places again.
* **`dropEmptyEnd_dropEmptyEnd`**, with `trimEnd_trimEnd` for a single line — both steps settle.
* **`pieces_trimmed`** — the lines of a trimmed text are the lines that were kept.
* **`trimmed_trimmed`**, **`trimmed_of_recorded`** — so does the form, and what has it is kept.
-/

namespace ExpectFile

namespace Text

variable {separator : Char}

/-! ## Cutting what was put together -/

/-- A piece holds no separator. -/
theorem not_mem_of_mem_pieces {text piece : List Char} (h : piece ∈ pieces separator text) :
    separator ∉ piece := by
  induction text generalizing piece with
  | nil =>
    rw [List.mem_singleton.mp h]
    exact List.not_mem_nil
  | cons c rest ih =>
    unfold pieces at h
    split at h
    · rename_i hnil
      exact absurd hnil (pieces_ne_nil separator rest)
    · rename_i first others hrest
      rw [hrest] at ih
      split at h
      · rcases List.mem_cons.mp h with rfl | hmem
        · exact List.not_mem_nil
        · exact ih hmem
      · rename_i hc
        rcases List.mem_cons.mp h with rfl | hmem
        · have hfirst : separator ∉ first := ih List.mem_cons_self
          exact fun hmem => (List.mem_cons.mp hmem).elim (fun heq => hc heq.symm) hfirst
        · exact ih (List.mem_cons_of_mem first hmem)

/-- A text without the separator is one piece. -/
theorem pieces_of_not_mem {text : List Char} (h : separator ∉ text) :
    pieces separator text = [text] := by
  induction text with
  | nil => rfl
  | cons c rest ih =>
    obtain ⟨hc, hrest⟩ := not_or.mp (mt List.mem_cons.mpr h)
    rw [pieces, ih hrest]
    exact if_neg (Ne.symm hc)

/-- The first separator ends the first piece. -/
theorem pieces_append_cons {text : List Char} (h : separator ∉ text) (rest : List Char) :
    pieces separator (text ++ separator :: rest) = text :: pieces separator rest := by
  induction text with
  | nil =>
    rw [List.nil_append, pieces]
    split
    · rename_i hnil
      exact absurd hnil (pieces_ne_nil separator rest)
    · rename_i first others hrest
      rw [hrest]
      exact if_pos rfl
  | cons c text ih =>
    obtain ⟨hc, htext⟩ := not_or.mp (mt List.mem_cons.mpr h)
    rw [List.cons_append, pieces, ih htext]
    exact if_neg (Ne.symm hc)

/-- **Pieces that are put together come apart again.** -/
theorem pieces_joined {texts : List (List Char)} (hne : texts ≠ [])
    (h : ∀ text ∈ texts, separator ∉ text) :
    pieces separator (joined [separator] texts) = texts := by
  induction texts with
  | nil => exact absurd rfl hne
  | cons first rest ih =>
    obtain ⟨hfirst, hrest⟩ := List.forall_mem_cons.mp h
    cases rest with
    | nil => exact pieces_of_not_mem hfirst
    | cons second others =>
      show pieces separator (first ++ [separator] ++ joined [separator] (second :: others)) = _
      rw [List.append_assoc, List.singleton_append, pieces_append_cons hfirst,
        ih (List.cons_ne_nil second others) hrest]

/-! ## Trimming a line -/

theorem mem_of_mem_trimEnd {text : List Char} {c : Char} (h : c ∈ trimEnd text) : c ∈ text := by
  induction text with
  | nil => exact absurd h List.not_mem_nil
  | cons d rest ih =>
    unfold trimEnd at h
    split at h
    · split at h
      · exact absurd h List.not_mem_nil
      · rw [List.mem_singleton.mp h]
        exact List.mem_cons_self
    · rcases List.mem_cons.mp h with rfl | hmem
      · exact List.mem_cons_self
      · exact List.mem_cons_of_mem d (ih hmem)

end Text

open Text

namespace Expectation

/-! ## Trimming a text -/

theorem dropEmptyEnd_ne_nil {lines : List (List Char)} (h : lines ≠ []) :
    dropEmptyEnd lines ≠ [] := by
  cases lines with
  | nil => exact absurd rfl h
  | cons line rest =>
    unfold dropEmptyEnd
    split <;> exact List.cons_ne_nil _ _

theorem mem_of_mem_dropEmptyEnd {lines : List (List Char)} {line : List Char}
    (h : line ∈ dropEmptyEnd lines) : line ∈ lines := by
  induction lines with
  | nil => exact absurd h List.not_mem_nil
  | cons first rest ih =>
    unfold dropEmptyEnd at h
    split at h
    · rw [List.mem_singleton.mp h]
      exact List.mem_cons_self
    · rcases List.mem_cons.mp h with rfl | hmem
      · exact List.mem_cons_self
      · exact List.mem_cons_of_mem first (ih hmem)

/-- Empty lines at the end are dropped all at once. -/
theorem dropEmptyEnd_dropEmptyEnd (lines : List (List Char)) :
    dropEmptyEnd (dropEmptyEnd lines) = dropEmptyEnd lines := by
  induction lines with
  | nil => rfl
  | cons line rest ih =>
    rw [dropEmptyEnd]
    split
    · rfl
    · rename_i hkept
      rw [dropEmptyEnd, ih]
      split
      · rename_i hempty
        exact absurd hempty hkept
      · rfl

/-- The lines of a trimmed text are the ones that it was put together from: trimming a line makes no
line break. -/
theorem pieces_trimmed (text : List Char) :
    pieces '\n' (trimmed text) = dropEmptyEnd ((pieces '\n' text).map trimEnd) := by
  refine pieces_joined (dropEmptyEnd_ne_nil ?_) ?_
  · exact fun hnil => pieces_ne_nil '\n' text (List.map_eq_nil_iff.mp hnil)
  · intro line hline hbreak
    obtain ⟨piece, hpiece, rfl⟩ := List.mem_map.mp (mem_of_mem_dropEmptyEnd hline)
    exact not_mem_of_mem_pieces hpiece (mem_of_mem_trimEnd hbreak)

/-- **A trimmed text stays as it is.** Its lines are the ones that were put together, and each of
the two steps leaves them alone. -/
theorem trimmed_trimmed (text : List Char) : trimmed (trimmed text) = trimmed text := by
  have hlines : (dropEmptyEnd ((pieces '\n' text).map trimEnd)).map trimEnd
      = dropEmptyEnd ((pieces '\n' text).map trimEnd) := by
    refine (List.map_congr_left ?_).trans (List.map_id _)
    intro line hline
    obtain ⟨piece, -, rfl⟩ := List.mem_map.mp (mem_of_mem_dropEmptyEnd hline)
    exact trimEnd_trimEnd piece
  show joined ['\n'] (dropEmptyEnd ((pieces '\n' (trimmed text)).map trimEnd)) = _
  rw [pieces_trimmed, hlines, dropEmptyEnd_dropEmptyEnd]
  rfl

/-- What a tolerant assertion stands for. -/
theorem recorded_of_tolerant {assertion : Assertion} {text : String}
    (htolerant : assertion.strictness = .tolerant) (hpayload : assertion.payload = some text) :
    recorded assertion = some (String.ofList (trimmed text.toList)) := by
  unfold recorded
  rw [htolerant, hpayload]

/-- **A text that a tolerant assertion stands for** is what it stands for itself. -/
theorem trimmed_of_recorded {assertion : Assertion} {text : String}
    (htolerant : assertion.strictness = .tolerant) (h : recorded assertion = some text) :
    String.ofList (trimmed text.toList) = text := by
  cases hpayload : assertion.payload with
  | none =>
    unfold recorded at h
    rw [hpayload] at h
    exact absurd h nofun
  | some given =>
    rw [recorded_of_tolerant htolerant hpayload] at h
    rw [← Option.some.inj h, String.toList_ofList, trimmed_trimmed]

end Expectation

end ExpectFile
