import Bindery.Proofs.Class.Strings

/-!
# Statements can be read back

The text of statements determines the statements. A line at the level at hand starts a statement,
and how it ends tells a simple statement from a conditional; a line one level further out, which
starts with a brace, ends a block. So every branch ends where its brace stands, and an alternative
belongs to the conditional whose brace it closes. This needs texts that stay on their lines, and
simple statements that do not pose as a `return`.

## Main definitions

* `Statement.IsLegible`, `Statement.AllLegible`: statements whose text tells what they are
* `Statement.opening`: the text of the first line of a statement
* `Statement.texts`: the lines of statements as texts
* `Statement.EndsBlock`: what follows statements is outside their block

## Main results

* `Statement.eq_of_texts_append`: statements and what follows them are told apart
* `Statement.text_eq_iff`: statements with the same text are the same
-/

namespace Bindery.Statement

open Source (Indent Line Buffer Fragment)

mutual

/-- No text of the statement breaks its line, and no simple statement in it poses as a `return`. -/
def IsLegible : Statement → Prop
  | .expr code => '\n' ∉ code.toList ∧ ¬ ("return ").toList <+: code.toList
  | .ret code => '\n' ∉ code.toList
  | .branch condition body => '\n' ∉ condition.toList ∧ AllLegible body
  | .branchElse condition body alternative =>
    '\n' ∉ condition.toList ∧ AllLegible body ∧ AllLegible alternative

/-- All statements are legible. -/
def AllLegible : List Statement → Prop
  | [] => True
  | s :: ss => IsLegible s ∧ AllLegible ss

end

/-! ## The lines of statements -/

/-- The text of the first line of a statement, without its indentation. -/
def opening : Statement → String
  | .expr code => code ++ ";"
  | .ret code => "return " ++ code ++ ";"
  | .branch condition _ => branchHeader condition
  | .branchElse condition _ _ => branchHeader condition

/-- The lines of statements as texts. -/
def texts (indent : Indent) (level : Nat) (ss : List Statement) : List String :=
  (Fragment.allLines level (bodyFragments ss)).map (Line.render indent)

section Texts

variable (indent : Indent) (level : Nat) (code condition : String)
  (body alternative ss : List Statement)

@[simp] theorem texts_nil : texts indent level [] = [] := rfl

@[simp] theorem texts_expr :
    texts indent level (.expr code :: ss) =
      (Buffer.indentation indent level ++ (code ++ ";")) :: texts indent level ss := rfl

@[simp] theorem texts_ret :
    texts indent level (.ret code :: ss) =
      (Buffer.indentation indent level ++ ("return " ++ code ++ ";")) :: texts indent level ss :=
  rfl

@[simp] theorem texts_branch :
    texts indent level (.branch condition body :: ss) =
      (Buffer.indentation indent level ++ branchHeader condition) ::
        (texts indent (level + 1) body ++
          (Buffer.indentation indent level ++ closing) :: texts indent level ss) := by
  simp [texts, bodyFragments, fragments, Fragment.allLines, Fragment.lines, Line.render]

@[simp] theorem texts_branchElse :
    texts indent level (.branchElse condition body alternative :: ss) =
      (Buffer.indentation indent level ++ branchHeader condition) ::
        (texts indent (level + 1) body ++
          (Buffer.indentation indent level ++ elseHeader) ::
            (texts indent (level + 1) alternative ++
              (Buffer.indentation indent level ++ closing) :: texts indent level ss)) := by
  simp [texts, bodyFragments, fragments, Fragment.allLines, Fragment.lines, Line.render]

/-- Statements begin with the first line of the first one. -/
theorem exists_texts_cons (s : Statement) :
    ∃ more, texts indent level (s :: ss) =
      (Buffer.indentation indent level ++ s.opening) :: more := by
  cases s <;> simp [opening]

end Texts

/-! ## First lines -/

theorem semicolon_ne_branchHeader (code condition : String) :
    code ++ ";" ≠ branchHeader condition := by
  intro h
  have hlast := congrArg (fun text => text.toList.getLast?) h
  simp [branchHeader, String.toList_append, List.getLast?_cons] at hlast

theorem eq_expr_of_opening {s : Statement} {code : String}
    (hcode : ¬ ("return ").toList <+: code.toList) (h : s.opening = code ++ ";") :
    s = .expr code := by
  cases s with
  | expr other => rw [(String.append_left_inj _).mp h]
  | ret other =>
    refine absurd ?_ hcode
    rw [← (String.append_left_inj _).mp h, String.toList_append]
    exact List.prefix_append _ _
  | branch condition body => exact absurd h.symm (semicolon_ne_branchHeader code condition)
  | branchElse condition body alternative =>
    exact absurd h.symm (semicolon_ne_branchHeader code condition)

theorem eq_ret_of_opening {s : Statement} (hs : s.IsLegible) {code : String}
    (h : s.opening = "return " ++ code ++ ";") : s = .ret code := by
  cases s with
  | expr other =>
    refine absurd ?_ hs.2
    rw [(String.append_left_inj _).mp h, String.toList_append]
    exact List.prefix_append _ _
  | ret other => rw [(String.append_right_inj _).mp ((String.append_left_inj _).mp h)]
  | branch condition body => exact absurd h.symm (semicolon_ne_branchHeader _ condition)
  | branchElse condition body alternative =>
    exact absurd h.symm (semicolon_ne_branchHeader _ condition)

theorem branchHeader_inj {condition other : String}
    (h : branchHeader condition = branchHeader other) : condition = other :=
  (String.append_right_inj _).mp ((String.append_left_inj _).mp h)

theorem eq_branch_of_opening {s : Statement} {condition : String}
    (h : s.opening = branchHeader condition) :
    (∃ body, s = .branch condition body) ∨
      ∃ body alternative, s = .branchElse condition body alternative := by
  cases s with
  | expr code => exact absurd h (semicolon_ne_branchHeader code condition)
  | ret code => exact absurd h (semicolon_ne_branchHeader _ condition)
  | branch other body => exact .inl ⟨body, by rw [branchHeader_inj h]⟩
  | branchElse other body alternative => exact .inr ⟨body, alternative, by rw [branchHeader_inj h]⟩

/-! ## Where a block ends -/

/-- The line after the statements of a block, if there is one, stands one level further out and
starts with a brace. -/
def EndsBlock (indent : Indent) (level : Nat) (rest : List String) : Prop :=
  ∀ line ∈ rest.head?, ∃ outer more, level = outer + 1 ∧
    line = Buffer.indentation indent outer ++ ("\x7d" ++ more)

section EndsBlock

variable {indent : Indent} {level : Nat}

theorem endsBlock_nil : EndsBlock indent level [] := by simp [EndsBlock]

theorem endsBlock_closing (rest : List String) :
    EndsBlock indent (level + 1) ((Buffer.indentation indent level ++ closing) :: rest) := by
  rintro line ⟨⟩
  exact ⟨level, "", rfl, rfl⟩

theorem endsBlock_elseHeader (rest : List String) :
    EndsBlock indent (level + 1) ((Buffer.indentation indent level ++ elseHeader) :: rest) := by
  rintro line ⟨⟩
  exact ⟨level, " else \x7b", rfl, by rw [elseHeader]; rfl⟩

theorem indentation_succ :
    Buffer.indentation indent (level + 1) = Buffer.indentation indent level ++ indent.unit := by
  simp [Buffer.indentation, List.replicate_succ']

/-- No style of indentation starts with a brace. -/
theorem unit_append_ne_brace (text more : String) : indent.unit ++ text ≠ "\x7d" ++ more := by
  have h : ∀ unit ∈ ["  ", "        ", "    ", "\t"], unit ++ text ≠ "\x7d" ++ more := by
    simp only [List.forall_mem_cons, ne_eq, ← String.toList_inj, String.toList_append]
    simp
  exact h indent.unit indent.unit_mem

/-- A line at the level of a block does not end it. -/
theorem not_endsBlock (text : String) (rest : List String) :
    ¬ EndsBlock indent level ((Buffer.indentation indent level ++ text) :: rest) := by
  intro h
  obtain ⟨outer, more, rfl, hline⟩ := h _ rfl
  rw [indentation_succ, String.append_assoc, String.append_right_inj] at hline
  exact unit_append_ne_brace text more hline

end EndsBlock

/-! ## Statements from their lines -/

section Recovery

variable {indent : Indent} {level : Nat}

/-- What ends a block does not start with a statement. -/
theorem texts_append_ne_of_endsBlock {rest : List String} (hrest : EndsBlock indent level rest)
    (s : Statement) (ss : List Statement) (rest' : List String) :
    rest ≠ texts indent level (s :: ss) ++ rest' := by
  rintro rfl
  obtain ⟨more, hmore⟩ := exists_texts_cons indent level ss s
  rw [hmore] at hrest
  exact not_endsBlock _ _ hrest

/-- Two lists of statements with the same lines start with statements with the same first line. -/
theorem opening_eq_of_texts_append {s t : Statement} {ss tt : List Statement}
    {rest rest' : List String}
    (h : texts indent level (s :: ss) ++ rest = texts indent level (t :: tt) ++ rest') :
    s.opening = t.opening := by
  obtain ⟨more, hmore⟩ := exists_texts_cons indent level ss s
  obtain ⟨more', hmore'⟩ := exists_texts_cons indent level tt t
  rw [hmore, hmore'] at h
  exact (String.append_right_inj _).mp (List.cons.inj h).1

theorem closing_ne_elseHeader : closing ≠ elseHeader := by decide

/-- Statements are recovered from their lines, and so is what follows their block. -/
theorem eq_of_texts_append {ss tt : List Statement} {rest rest' : List String}
    (hss : AllLegible ss) (htt : AllLegible tt) (hrest : EndsBlock indent level rest)
    (hrest' : EndsBlock indent level rest')
    (h : texts indent level ss ++ rest = texts indent level tt ++ rest') :
    ss = tt ∧ rest = rest' := by
  induction ss using body_induction generalizing tt level rest rest' with
  | nil =>
    cases tt with
    | nil => exact ⟨rfl, h⟩
    | cons t tt => exact absurd h (texts_append_ne_of_endsBlock hrest t tt rest')
  | expr code ss ih =>
    cases tt with
    | nil => exact absurd h.symm (texts_append_ne_of_endsBlock hrest' _ _ _)
    | cons t tt =>
      obtain rfl := eq_expr_of_opening hss.1.2 (opening_eq_of_texts_append h).symm
      obtain ⟨rfl, hend⟩ := ih hss.2 htt.2 hrest hrest' (List.cons.inj h).2
      exact ⟨rfl, hend⟩
  | ret code ss ih =>
    cases tt with
    | nil => exact absurd h.symm (texts_append_ne_of_endsBlock hrest' _ _ _)
    | cons t tt =>
      obtain rfl := eq_ret_of_opening htt.1 (opening_eq_of_texts_append h).symm
      obtain ⟨rfl, hend⟩ := ih hss.2 htt.2 hrest hrest' (List.cons.inj h).2
      exact ⟨rfl, hend⟩
  | branch condition body ss ihBody ih =>
    cases tt with
    | nil => exact absurd h.symm (texts_append_ne_of_endsBlock hrest' _ _ _)
    | cons t tt =>
      obtain ⟨body', rfl⟩ | ⟨body', alternative', rfl⟩ :=
        eq_branch_of_opening (opening_eq_of_texts_append h).symm
      · simp only [texts_branch, List.cons_append, List.append_assoc, List.cons.injEq,
          true_and] at h
        obtain ⟨rfl, hafter⟩ :=
          ihBody hss.1.2 htt.1.2 (endsBlock_closing _) (endsBlock_closing _) h
        obtain ⟨rfl, hend⟩ := ih hss.2 htt.2 hrest hrest' (List.cons.inj hafter).2
        exact ⟨rfl, hend⟩
      · -- the brace that ends the body has an alternative on one side only
        simp only [texts_branch, texts_branchElse, List.cons_append, List.append_assoc,
          List.cons.injEq, true_and] at h
        obtain ⟨rfl, hafter⟩ :=
          ihBody hss.1.2 htt.1.2.1 (endsBlock_closing _) (endsBlock_elseHeader _) h
        exact absurd ((String.append_right_inj _).mp (List.cons.inj hafter).1) closing_ne_elseHeader
  | branchElse condition body alternative ss ihBody ihAlternative ih =>
    cases tt with
    | nil => exact absurd h.symm (texts_append_ne_of_endsBlock hrest' _ _ _)
    | cons t tt =>
      obtain ⟨body', rfl⟩ | ⟨body', alternative', rfl⟩ :=
        eq_branch_of_opening (opening_eq_of_texts_append h).symm
      · simp only [texts_branch, texts_branchElse, List.cons_append, List.append_assoc,
          List.cons.injEq, true_and] at h
        obtain ⟨rfl, hafter⟩ :=
          ihBody hss.1.2.1 htt.1.2 (endsBlock_elseHeader _) (endsBlock_closing _) h
        exact absurd ((String.append_right_inj _).mp (List.cons.inj hafter).1).symm
          closing_ne_elseHeader
      · simp only [texts_branchElse, List.cons_append, List.append_assoc, List.cons.injEq,
          true_and] at h
        obtain ⟨rfl, hafter⟩ :=
          ihBody hss.1.2.1 htt.1.2.1 (endsBlock_elseHeader _) (endsBlock_elseHeader _) h
        obtain ⟨rfl, hlast⟩ := ihAlternative hss.1.2.2 htt.1.2.2 (endsBlock_closing _)
          (endsBlock_closing _) (List.cons.inj hafter).2
        obtain ⟨rfl, hend⟩ := ih hss.2 htt.2 hrest hrest' (List.cons.inj hlast).2
        exact ⟨rfl, hend⟩

end Recovery

/-! ## Statements from their text -/

/-- The texts of legible statements do not break. -/
theorem newline_notMem_of_allLegible {ss : List Statement} (hss : AllLegible ss) :
    ∀ s ∈ bodyStrings ss, '\n' ∉ s.toList := by
  induction ss using body_induction with
  | nil => exact List.forall_mem_nil _
  | expr code ss ih => exact List.forall_mem_cons.mpr ⟨hss.1.1, ih hss.2⟩
  | ret code ss ih => exact List.forall_mem_cons.mpr ⟨hss.1, ih hss.2⟩
  | branch condition body ss ihBody ih =>
    rw [bodyStrings, strings, List.cons_append, List.forall_mem_cons, List.forall_mem_append]
    exact ⟨hss.1.1, ihBody hss.1.2, ih hss.2⟩
  | branchElse condition body alternative ss ihBody ihAlternative ih =>
    rw [bodyStrings, strings, List.cons_append, List.append_assoc, List.forall_mem_cons,
      List.forall_mem_append, List.forall_mem_append]
    exact ⟨hss.1.1, ihBody hss.1.2.1, ihAlternative hss.1.2.2, ih hss.2⟩

/-- The lines of legible statements do not break. -/
theorem isWhole_of_allLegible {ss : List Statement} (hss : AllLegible ss) (level : Nat) :
    ∀ line ∈ Fragment.allLines level (bodyFragments ss), line.IsWhole :=
  Fragment.isWhole_of_allStrings
    (newline_notMem_bodyFragments (newline_notMem_of_allLegible hss)) level

/-- **The text tells the statements.** Whatever the style of indentation, the level and the text in
front, legible statements are written with the same text only if they are the same: no alternative
passes to another conditional, and no statement passes the end of a block. -/
theorem text_eq_iff {ss tt : List Statement} (hss : AllLegible ss) (htt : AllLegible tt)
    (b : Buffer) :
    (b.applyAll (bodyFragments ss)).text = (b.applyAll (bodyFragments tt)).text ↔ ss = tt := by
  refine ⟨fun h => ?_, fun h => h ▸ rfl⟩
  rw [Buffer.applyAll_eq, Buffer.applyAll_eq] at h
  have htexts : texts b.indent b.level ss = texts b.indent b.level tt :=
    Line.map_render_eq_of_renderAll_eq (isWhole_of_allLegible hss b.level)
      (isWhole_of_allLegible htt b.level) ((String.append_right_inj _).mp h)
  have happend : texts b.indent b.level ss ++ [] = texts b.indent b.level tt ++ [] := by
    rw [htexts]
  exact (eq_of_texts_append hss htt endsBlock_nil endsBlock_nil happend).1

/-- An alternative that passes from the inner of two conditionals to the outer one shows, even if
it is empty. -/
theorem text_ne_of_moved_alternative :
    let inner : List Statement := [.branch "a" [.branchElse "b" [.expr "f()"] []]]
    let outer : List Statement := [.branchElse "a" [.branch "b" [.expr "f()"]] []]
    AllLegible inner ∧ AllLegible outer ∧
      (Buffer.applyAll { indent := .tab, level := 2 } (bodyFragments inner)).text ≠
        (Buffer.applyAll { indent := .tab, level := 2 } (bodyFragments outer)).text := by
  intro inner outer
  have hinner : AllLegible inner := by simp [inner, AllLegible, IsLegible]
  have houter : AllLegible outer := by simp [outer, AllLegible, IsLegible]
  exact ⟨hinner, houter, mt (text_eq_iff hinner houter _).mp (by simp [inner, outer])⟩

end Bindery.Statement
