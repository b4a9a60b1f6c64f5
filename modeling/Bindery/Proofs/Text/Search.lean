import Bindery.Proofs.Text.Dotted
import Bindery.Text.Span

/-!
# Searching for quoted texts

A search for a quoted text looks at the places where a quote stands. It passes over a stretch
without quotes, and over a quote if what follows up to the next one is another text. What it finds
is therefore the first quoted text that is equal, or else a text that stands between the closing
quote of one text and the opening quote of the next.

## Main definitions

* `Text.quote`: a text in double quotes
* `Text.Passes`, `Text.PassesToQuote`: a search for a quoted text goes on behind a stretch, always
  or if a quote follows

## Main results

* `Text.quote_append_inj`: a quoted text tells where it ends
* `Text.passesToQuote_of_ne`: a search passes over a quote and another text behind it
* `Text.findQuoted?_of_passes`: a search finds what stands behind the stretches that it passes over
-/

namespace Bindery.Text

theorem byteLength_append (cs ds : List Char) :
    byteLength (cs ++ ds) = byteLength cs + byteLength ds := by
  induction cs with
  | nil => simp [byteLength]
  | cons c cs ih => simp [byteLength, ih, Nat.add_assoc]

/-- As many bytes as a text has in front are dropped with that text. -/
theorem dropBytes?_byteLength (cs ds : List Char) :
    dropBytes? (byteLength cs) (cs ++ ds) = some ds := by
  induction cs with
  | nil => simp [byteLength, dropBytes?]
  | cons c cs ih =>
    obtain ⟨n, hn⟩ : ∃ n, c.utf8Size = n + 1 := Nat.exists_eq_add_one.mpr c.utf8Size_pos
    have hsum : c.utf8Size + byteLength cs = n + byteLength cs + 1 := by omega
    have hrest : n + byteLength cs + 1 - c.utf8Size = byteLength cs := by omega
    rw [List.cons_append, byteLength, hsum, dropBytes?, if_pos (by omega), hrest, ih]

/-- A text in double quotes. -/
def quote (value : List Char) : List Char := '"' :: value ++ ['"']

/-- A quoted text is recovered with what stands behind it. -/
theorem quote_append_inj {xs ys rest rest' : List Char} (hxs : '"' ∉ xs) (hys : '"' ∉ ys)
    (h : quote xs ++ rest = quote ys ++ rest') : xs = ys ∧ rest = rest' := by
  simp only [quote, List.cons_append, List.append_assoc, List.nil_append] at h
  exact append_separator_inj hxs hys (List.cons.inj h).2

/-- A search for a quoted text goes on behind a stretch, whatever follows there. -/
def Passes (value stretch : List Char) : Prop :=
  ∀ (offset : Nat) (rest : List Char), findAt? (quote value) offset (stretch ++ rest) =
    findAt? (quote value) (offset + byteLength stretch) rest

variable {value : List Char}

theorem Passes.nil : Passes value [] := fun _ _ => rfl

theorem Passes.append {stretch more : List Char} (hstretch : Passes value stretch)
    (hmore : Passes value more) : Passes value (stretch ++ more) := fun offset rest => by
  rw [List.append_assoc, hstretch, hmore, byteLength_append, Nat.add_assoc]

theorem findAt?_cons_of_ne {c : Char} (hc : c ≠ '"') (offset : Nat) (cs : List Char) :
    findAt? (quote value) offset (c :: cs) = findAt? (quote value) (offset + c.utf8Size) cs := by
  have hfalse : (quote value).isPrefixOf (c :: cs) = false := by
    simp [quote, List.isPrefixOf, hc.symm]
  rw [findAt?, if_neg (by simp [hfalse])]

/-- A search passes over what has no quotes. -/
theorem passes_of_notMem {stretch : List Char} (h : '"' ∉ stretch) : Passes value stretch := by
  induction stretch with
  | nil => exact .nil
  | cons c cs ih =>
    rw [List.mem_cons, not_or] at h
    intro offset rest
    rw [List.cons_append, findAt?_cons_of_ne (Ne.symm h.1), ih h.2, byteLength, Nat.add_assoc]

/-- A search for a quoted text goes on behind a stretch if a quote follows there. -/
def PassesToQuote (value stretch : List Char) : Prop :=
  ∀ (offset : Nat) (rest : List Char), findAt? (quote value) offset (stretch ++ '"' :: rest) =
    findAt? (quote value) (offset + byteLength stretch) ('"' :: rest)

theorem PassesToQuote.append {stretch more : List Char} (h : PassesToQuote value stretch)
    (hmore : Passes value ('"' :: more)) : Passes value (stretch ++ '"' :: more) :=
  fun offset rest => by
    rw [List.append_assoc, List.cons_append, h, ← List.cons_append, hmore, byteLength_append,
      Nat.add_assoc]

/-- A search passes over a quote and what is behind it up to the next one, if that is another text
than the one it is for. -/
theorem passesToQuote_of_ne {other : List Char} (hvalue : '"' ∉ value) (hother : '"' ∉ other)
    (hne : other ≠ value) : PassesToQuote value ('"' :: other) := by
  intro offset rest
  have hfalse : ¬ quote value <+: '"' :: (other ++ '"' :: rest) := by
    rintro ⟨more, hmore⟩
    have hmore : value ++ '"' :: more = other ++ '"' :: rest := by simpa [quote] using hmore
    exact hne (append_separator_inj hvalue hother hmore).1.symm
  rw [List.cons_append, findAt?, if_neg (by simpa using hfalse), passes_of_notMem hother,
    byteLength, Nat.add_assoc]

/-- A search passes over the quote behind the last text of a line, and what is left of the line. -/
theorem passes_lineEnd {stretch : List Char} (hvalue : '\n' ∉ value) (hstretch : '"' ∉ stretch) :
    Passes value ('"' :: stretch ++ ['\n']) := by
  intro offset rest
  have hfalse : ¬ quote value <+: '"' :: (stretch ++ '\n' :: rest) := by
    rintro ⟨more, hmore⟩
    have hmore : value ++ '"' :: more = stretch ++ '\n' :: rest := by simpa [quote] using hmore
    obtain ⟨as, rfl, has⟩ | ⟨bs, rfl, hbs⟩ := List.append_eq_append_iff.mp hmore
    · cases as <;> simp_all
    · cases bs <;> simp_all
  have htail : '"' ∉ stretch ++ ['\n'] := by simp [hstretch]
  have hsplit : '"' :: stretch ++ ['\n'] ++ rest = '"' :: (stretch ++ '\n' :: rest) := by simp
  have hrest : stretch ++ '\n' :: rest = stretch ++ ['\n'] ++ rest := by simp
  rw [hsplit, findAt?, if_neg (by simpa using hfalse), hrest, passes_of_notMem htail,
    List.cons_append, byteLength, Nat.add_assoc]

/-- A search finds the text that stands, in quotes, behind what it passes over. -/
theorem findQuoted?_of_passes {stretch : List Char} (h : Passes value stretch)
    (front rest : List Char) :
    findQuoted? (front ++ (stretch ++ (quote value ++ rest))) value (byteLength front) =
      some { offset := byteLength front + byteLength stretch + 1, length := byteLength value } := by
  have hfound : findAt? (quote value) (byteLength front + byteLength stretch)
      (quote value ++ rest) = some (byteLength front + byteLength stretch) := by
    rw [quote, List.cons_append, List.cons_append, findAt?, if_pos]
    simp
  rw [findQuoted?, findFrom?, dropBytes?_byteLength, Option.bind_some, ← quote, h, hfound,
    Option.map_some]

end Bindery.Text
