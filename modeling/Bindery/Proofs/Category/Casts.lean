import Bindery.Proofs.Category.Acceptance
import Bindery.Proofs.Target.Cast

/-!
# Casts in members

Fields are assigned in simple statements of binding methods, and all kinds but preferences cast the
value. Read off the text of the statements, the casts in the members of a kind are one for each
field, to the type of the field for views and services and to its boxed type for the others. Saving,
letting go and opening assign no cast value to a field.

## Main definitions

* `Statement.simpleAll`: the simple statements in a body, branches included
* `Member.casts`, `ClassSpec.casts`: the casts to fields, each with the name of the field
* `BindingKind.cast?`: the cast that a kind owes to a field

## Main results

* `casts_members`: the casts in the members of a kind
-/

namespace Bindery

open Source (upTo)

/-! ## Casts in bodies -/

namespace Statement

mutual

/-- The simple statements in a statement, those in its branches included. -/
def simple : Statement → List String
  | .expr code => [code]
  | .ret _ => []
  | .branch _ body => simpleAll body
  | .branchElse _ body alternative => simpleAll body ++ simpleAll alternative

/-- The simple statements in statements one after the other. -/
def simpleAll : List Statement → List String
  | [] => []
  | s :: ss => simple s ++ simpleAll ss

end

/-- The casts of values that statements assign to fields: the name of each field and the text of the
type. -/
def casts (body : List Statement) : List (String × String) :=
  (simpleAll body).filterMap Target.fieldCast?

theorem casts_nil : casts [] = [] := rfl

theorem casts_cons (s : Statement) (ss : List Statement) :
    casts (s :: ss) = casts [s] ++ casts ss := by
  simp only [casts, simpleAll, List.append_nil, List.filterMap_append]

theorem casts_append (ss ts : List Statement) : casts (ss ++ ts) = casts ss ++ casts ts := by
  induction ss with
  | nil => rfl
  | cons s ss ih => rw [List.cons_append, casts_cons, ih, casts_cons s ss, List.append_assoc]

theorem casts_expr (code : String) : casts [.expr code] = (Target.fieldCast? code).toList := by
  simp only [casts, simpleAll, simple, List.append_nil, List.filterMap_cons, List.filterMap_nil]
  cases Target.fieldCast? code <;> rfl

theorem casts_branch (condition : String) (body : List Statement) :
    casts [.branch condition body] = casts body := by
  simp only [casts, simpleAll, simple, List.append_nil]

theorem casts_branchElse (condition : String) (body alternative : List Statement) :
    casts [.branchElse condition body alternative] = casts body ++ casts alternative := by
  simp only [casts, simpleAll, simple, List.append_nil, List.filterMap_append]

/-- Blocks with at most one cast each have the casts of their fields. -/
theorem casts_flatMap {fields : List Field} {block : Field → List Statement}
    {cast? : Field → Option (String × String)}
    (h : ∀ f ∈ fields, casts (block f) = (cast? f).toList) :
    casts (fields.flatMap block) = fields.filterMap cast? := by
  induction fields with
  | nil => rfl
  | cons f fields ih =>
    rw [List.forall_mem_cons] at h
    rw [List.flatMap_cons, casts_append, h.1, ih h.2, List.filterMap_cons]
    cases cast? f <;> rfl

/-- Blocks without a cast have none together. -/
theorem casts_flatMap_eq_nil {fields : List Field} {block : Field → List Statement}
    (h : ∀ f ∈ fields, casts (block f) = []) : casts (fields.flatMap block) = [] := by
  have hnone : casts (fields.flatMap block) = fields.filterMap fun _ => none := casts_flatMap h
  rw [hnone]
  exact List.filterMap_eq_nil_iff.mpr fun _ _ => rfl

/-- Statements made one for each field have the casts of their fields. -/
theorem casts_map {fields : List Field} {emit : Field → Statement}
    {cast? : Field → Option (String × String)}
    (h : ∀ f ∈ fields, casts [emit f] = (cast? f).toList) :
    casts (fields.map emit) = fields.filterMap cast? := by
  rw [List.map_eq_flatMap]
  exact casts_flatMap h

theorem casts_map_eq_nil {fields : List Field} {emit : Field → Statement}
    (h : ∀ f ∈ fields, casts [emit f] = []) : casts (fields.map emit) = [] := by
  rw [List.map_eq_flatMap]
  exact casts_flatMap_eq_nil h

end Statement

/-- The casts in a member. -/
def Member.casts : Member → List (String × String)
  | .field _ => []
  | .method spec => Statement.casts spec.body

/-- The casts in a class, in order. -/
def ClassSpec.casts (spec : ClassSpec) : List (String × String) :=
  spec.members.flatMap Member.casts

/-- The cast that a kind owes to a field: preferences are read by type, and other values are cast to
the type of the field or to its boxed type. -/
def BindingKind.cast? : BindingKind → Field → Option (String × String)
  | .preference, _ => none
  | .view, f | .service, f => some (f.name, upTo ')' f.type)
  | .extra, f | .instanceState, f | .nonConfiguration, f =>
    some (f.name, upTo ')' (Target.boxed f.type))

namespace Category

open Statement (casts casts_nil casts_cons casts_append casts_expr casts_branch casts_branchElse
  casts_flatMap casts_flatMap_eq_nil casts_map casts_map_eq_nil)

/-! ## Casts in statements -/

section

variable {f : Field} (hname : ' ' ∉ f.name.toList)

include hname

theorem casts_assign {value type source : String} (hvalue : value = "(" ++ type ++ ") " ++ source) :
    casts [assignStatement f value] = [(f.name, upTo ')' type)] := by
  rw [assignStatement, casts_expr, hvalue, Target.fieldCast?_assign hname]
  rfl

/-- A cast value can be what a call with one argument behind its first ones answers. -/
theorem casts_assign_call {front call : String} (hfront : front = ") " ++ call)
    (type argument : String) :
    casts [assignStatement f ("(" ++ type ++ front ++ argument ++ ")")] =
      [(f.name, upTo ')' type)] := by
  have hvalue : "(" ++ type ++ front ++ argument ++ ")" =
      "(" ++ type ++ ") " ++ (call ++ argument ++ ")") := by
    rw [hfront]
    simp only [String.append_assoc]
  exact casts_assign hname hvalue

theorem casts_assign_of_value {value : String} (hvalue : ∀ more, value.toList ≠ '(' :: more) :
    casts [assignStatement f value] = [] := by
  rw [assignStatement, casts_expr, Target.fieldCast?_of_value hname hvalue]
  rfl

end

/-- A statement that starts with another character than the name of the host assigns no cast value.
-/
theorem casts_of_head? {code : String} {c : Char} (hcode : code.toList.head? = some c)
    (hc : 't' ≠ c) : casts [.expr code] = [] := by
  rw [casts_expr, Target.fieldCast?_of_head? hcode hc]
  rfl

theorem casts_ofList {c : Char} {cs : List Char} (hc : 't' ≠ c) :
    casts [.expr (String.ofList (c :: cs))] = [] :=
  casts_of_head? (by rw [String.toList_ofList, List.head?_cons]) hc

theorem casts_throw (options : Options) (message : String) :
    casts [throwStatement options message] = [] := by
  have hcode :
      ("throw new " ++ options.exceptionClass ++ "(" ++ Target.literal message ++ ")").toList =
        "throw".toList ++ ' ' :: ("new ".toList ++ (options.exceptionClass.toList ++
          ('(' :: ((Target.literal message).toList ++ [')'])))) := by simp
  rw [throwStatement, casts_expr, Target.fieldCast?_of_blank (by decide) hcode]
  · rfl
  · intro more heq
    exact absurd (List.cons.inj heq).1 (by decide)

/-- The first statement of a binding method casts the host, and no value for a field. -/
theorem casts_bindingMethod {host : Host} (hhost : ' ' ∉ host.qualifiedName.toList) (name : String)
    (params : List Parameter) (body : List Statement) (returns : Option String) :
    (bindingMethod host name params body returns).casts = casts body := by
  have hcode : host.qualifiedName ++ " target = (" ++ host.qualifiedName ++ ") object" =
      host.qualifiedName ++ " target = " ++ ("(" ++ host.qualifiedName ++ ") object") := by
    have hopen : " target = (" = " target = " ++ "(" := rfl
    rw [hopen]
    simp only [String.append_assoc]
  rw [bindingMethod, Member.casts, casts_cons, castStatement, casts_expr, hcode,
    Target.fieldCast?_of_host hhost]
  rfl

/-! ## Casts of a field -/

section

variable {f : Field} (hname : ' ' ∉ f.name.toList)

include hname

theorem View.casts_bindStatements (host : Host) (options : Options) :
    casts (bindStatements host options f) = [(f.name, upTo ')' f.type)] := by
  have hvalue : "(" ++ f.type ++ ") " ++ root host ++ ".findViewById(" ++ toString (idOf f) ++ ")" =
      "(" ++ f.type ++ ") " ++ (root host ++ ".findViewById(" ++ toString (idOf f) ++ ")") := by
    simp only [String.append_assoc]
  rw [bindStatements]
  dsimp only
  split
  · exact casts_assign hname hvalue
  · rw [casts_cons, casts_assign hname hvalue, casts_branch, casts_throw, List.append_nil]

theorem View.casts_unbindStatement : casts [unbindStatement f] = [] := by
  refine casts_assign_of_value hname fun more heq => ?_
  exact absurd (List.cons.inj heq).1 (by decide)

theorem Preference.casts_bindStatements : casts (bindStatements f) = [] := by
  rw [bindStatements]
  split
  · rfl
  · next accessor _ =>
      rw [casts_branch]
      refine casts_assign_of_value hname fun more heq => ?_
      simp [String.toList_append] at heq

theorem Extra.casts_bindStatement (options : Options) :
    casts [bindStatement options f] = [(f.name, upTo ')' (Target.boxed f.type))] := by
  have hcall : ") getExtra(target, " = ") " ++ "getExtra(target, " := rfl
  rw [bindStatement]
  dsimp only
  split
  · rw [casts_branch, casts_assign_call hname hcall]
  · rw [casts_branchElse, casts_assign_call hname hcall, casts_throw, List.append_nil]

theorem InstanceState.casts_restoreStatement :
    casts [restoreStatement f] = [(f.name, upTo ')' (Target.boxed f.type))] := by
  have hcall : ") getInstance(bundle, " = ") " ++ "getInstance(bundle, " := rfl
  rw [restoreStatement, casts_branch, casts_assign_call hname hcall]

theorem NonConfiguration.casts_restoreStatement :
    casts [restoreStatement f] = [(f.name, upTo ')' (Target.boxed f.type))] := by
  have hcall : ") map.get(" = ") " ++ "map.get(" := rfl
  rw [restoreStatement, casts_branch, casts_assign_call hname hcall]

theorem Service.casts_bindStatements (h : Service.check f = .ok ()) :
    casts (bindStatements f) = [(f.name, upTo ')' f.type)] := by
  obtain ⟨-, service, hservice⟩ := Service.check_eq_ok_iff.mp h
  have hcall : ") getSystemService(target, " = ") " ++ "getSystemService(target, " := rfl
  rw [bindStatements, hservice]
  exact casts_assign_call hname hcall f.type service

end

theorem InstanceState.casts_saveStatement (f : Field) : casts [saveStatement f] = [] :=
  casts_of_head? (by simp; rfl) (by decide)

theorem NonConfiguration.casts_saveStatement (f : Field) : casts [saveStatement f] = [] :=
  casts_of_head? (by simp; rfl) (by decide)

/-! ## Casts of a kind -/

/-- The casts in the members of a kind are those that it owes to its fields. -/
theorem casts_members {host : Host} (hhost : ' ' ∉ host.qualifiedName.toList) (options : Options)
    {kind : BindingKind} {fields : List Field} (hchecks : ∀ f ∈ fields, kind.check f = .ok ())
    (hnames : ∀ f ∈ fields, ' ' ∉ f.name.toList) :
    (kind.members host options fields).flatMap Member.casts = fields.filterMap kind.cast? := by
  cases kind with
  | view =>
    have hbind : casts (fields.flatMap (View.bindStatements host options)) =
        fields.filterMap BindingKind.view.cast? :=
      casts_flatMap fun f hf => View.casts_bindStatements (hnames f hf) host options
    have hunbind : casts (fields.map View.unbindStatement) = [] :=
      casts_map_eq_nil fun f hf => View.casts_unbindStatement (hnames f hf)
    rw [BindingKind.members, View.members, List.flatMap_cons, List.flatMap_singleton,
      casts_bindingMethod hhost, casts_bindingMethod hhost, hbind, hunbind, List.append_nil]
  | preference =>
    have hopen : casts [Preference.openStatement] = [] := casts_ofList (by decide)
    have hbind : casts (fields.flatMap Preference.bindStatements) = [] :=
      casts_flatMap_eq_nil fun f hf => Preference.casts_bindStatements (hnames f hf)
    rw [BindingKind.members, Preference.members, List.flatMap_singleton,
      casts_bindingMethod hhost, casts_cons, hopen, hbind]
    exact (List.filterMap_eq_nil_iff.mpr fun _ _ => rfl).symm
  | extra =>
    rw [BindingKind.members, Extra.members, List.flatMap_singleton, casts_bindingMethod hhost]
    exact casts_map fun f hf => Extra.casts_bindStatement (hnames f hf) options
  | instanceState =>
    have hsave : casts (fields.map InstanceState.saveStatement) = [] :=
      casts_map_eq_nil fun f _ => InstanceState.casts_saveStatement f
    rw [BindingKind.members, InstanceState.members, List.flatMap_cons, List.flatMap_cons,
      List.flatMap_singleton, casts_bindingMethod hhost, casts_bindingMethod hhost, hsave]
    exact casts_map fun f hf => InstanceState.casts_restoreStatement (hnames f hf)
  | nonConfiguration =>
    have hsave : casts (fields.map NonConfiguration.saveStatement) = [] :=
      casts_map_eq_nil fun f _ => NonConfiguration.casts_saveStatement f
    have hmap : casts [NonConfiguration.newMapStatement] = [] := casts_ofList (by decide)
    have hopen : casts [NonConfiguration.openMapStatement] = [] := casts_ofList (by decide)
    rw [BindingKind.members, NonConfiguration.members, List.flatMap_cons, List.flatMap_singleton,
      casts_bindingMethod hhost, casts_bindingMethod hhost, casts_append, casts_cons, hmap, hsave,
      casts_cons _ (fields.map _), hopen]
    exact casts_map fun f hf => NonConfiguration.casts_restoreStatement (hnames f hf)
  | service =>
    rw [BindingKind.members, Service.members, List.flatMap_singleton, casts_bindingMethod hhost]
    exact casts_flatMap fun f hf => Service.casts_bindStatements (hnames f hf) (hchecks f hf)

end Category

end Bindery
