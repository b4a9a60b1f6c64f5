import Bindery.Proofs.Binding.Emission
import Bindery.Proofs.Target.Literal
import Mathlib.Data.List.Forall2
import Mathlib.Data.List.Induction
import Mathlib.Data.List.Nodup
import Mathlib.Logic.Function.Basic

/-!
# Saved fields are restored

A binder saves fields in one method and restores them in another. Both methods are texts that are
made side by side, so here they are read again: each statement of one puts a field of the host under
a key, and each statement of the other gets what is under a key into a field. Both lead through the
same pairs in the same order, and no two keys meet, so a field that was saved comes back as it was
and no other field is touched.

## Main definitions

* `Transfer`, `Channel`: a key with a field, and the wording in which transfers are written
* `Channel.Puts`, `Channel.Gets`: how statements are read as transfers
* `Channel.valueOf?`: the value of a key expression
* `Channel.save`, `Channel.restore`: the effect of transfers
* `Channel.HandsOver`: statements that save some fields and statements that restore them agree

## Main results

* `Channel.handsOver`: the statements for fields of different names agree
* `HostBindings.save_restore_agree`: the methods of a binder agree after any run
-/

namespace Bindery

open Target (literal literalValue? Denotes)
open Text (codeUnits codeUnits_append codeUnits_injective)

/-- A field of the host, with the expression of the key that its value is kept under. -/
@[ext] structure Transfer where
  /-- The expression of the key. -/
  key : String
  /-- The name of the field. -/
  field : String
  deriving DecidableEq, Repr

/-- The wording in which values are handed over. -/
structure Channel where
  /-- What stands in front of a key where a value is put. -/
  put : String
  /-- What stands in front of a key where its presence is asked for. -/
  has : String
  /-- What stands in front of a key where a value is got. -/
  get : String
  /-- What a key expression has in front of its literal. -/
  front : String := ""
  /-- The value of what stands in front of the literal. -/
  constant : String := ""

namespace Channel

/-- Values that are kept in a bundle, with a constant in front of their keys. -/
def bundle : Channel where
  put := "putInstance(bundle, "
  has := "bundle.containsKey("
  get := "getInstance(bundle, "
  front := "INSTANCE_KEY_PREFIX + "
  constant := "shiv:instance:"

/-- Values that are handed over in a map. -/
def map : Channel where
  put := "instance.put("
  has := "map.containsKey("
  get := "map.get("

variable (c : Channel)

/-! ## Statements as transfers -/

/-- A text is a key expression: a literal behind the front. -/
def IsKey (key : String) : Prop := ∃ s, key = c.front ++ literal s

/-- A statement puts a field under a key. -/
def Puts (stmt : Statement) (t : Transfer) : Prop :=
  c.IsKey t.key ∧ stmt = .expr (c.put ++ t.key ++ ", target." ++ t.field ++ ")")

/-- A statement gets what is under a key into a field, if there is something. The key that is asked
for is the key that is read. -/
def Gets (stmt : Statement) (t : Transfer) : Prop :=
  c.IsKey t.key ∧ ∃ type, stmt = .branch (c.has ++ t.key ++ ")")
    [.expr ("target." ++ t.field ++ " = (" ++ type ++ ") " ++ c.get ++ t.key ++ ")")]

/-- The value of a key expression, if it has one. -/
def valueOf? (key : String) : Option (List Nat) :=
  ((Text.dropPrefix? c.front key).bind literalValue?).map (codeUnits c.constant.toList ++ ·)

/-- The value of the constant with a name behind it. -/
def valueFor (name : String) : List Nat := codeUnits (c.constant ++ name).toList

/-- The transfer of a field. -/
def transfer (name : String) : Transfer := { key := c.front ++ literal name, field := name }

variable {c}

theorem isKey_transfer (name : String) : c.IsKey (c.transfer name).key := ⟨name, rfl⟩

@[simp] theorem field_transfer (name : String) : (c.transfer name).field = name := rfl

theorem key_transfer_injective : Function.Injective fun name => (c.transfer name).key := by
  intro name other h
  exact Target.literal_injective ((String.append_right_inj c.front).mp h)

theorem valueFor_injective : Function.Injective c.valueFor := by
  intro name other h
  exact (String.append_right_inj c.constant).mp (String.toList_inj.mp (codeUnits_injective h))

/-- A key has the value that its literal denotes behind the constant; a name with a carriage return
has no literal. -/
theorem valueOf?_transfer (name : String) :
    c.valueOf? (c.transfer name).key =
      if '\r' ∈ name.toList then none else some (c.valueFor name) := by
  rw [valueOf?, valueFor, transfer, Text.dropPrefix?_append, Option.bind_some,
    Target.literalValue?_literal, String.toList_append, codeUnits_append]
  split <;> rfl

/-- A statement is read as one transfer at most, whatever the field is called. -/
theorem Puts.unique {stmt : Statement} {t u : Transfer} (ht : c.Puts stmt t) (hu : c.Puts stmt u) :
    t = u := by
  obtain ⟨⟨s, hs⟩, rfl⟩ := ht
  obtain ⟨⟨s', hs'⟩, heq⟩ := hu
  have htext := Statement.expr.inj heq
  simp only [hs, hs', String.append_assoc, String.append_right_inj] at htext
  -- the literal tells where the key ends, also if the name of the field goes on like a statement
  obtain ⟨rfl, hrest⟩ := Target.literal_append_inj htext
  rw [String.append_right_inj, String.append_left_inj] at hrest
  exact Transfer.ext (hs.trans hs'.symm) hrest

theorem Gets.key_eq {stmt : Statement} {t u : Transfer} (ht : c.Gets stmt t) (hu : c.Gets stmt u) :
    t.key = u.key := by
  obtain ⟨-, type, rfl⟩ := ht
  obtain ⟨-, type', heq⟩ := hu
  have hcondition := (Statement.branch.inj heq).1
  rwa [String.append_left_inj, String.append_right_inj] at hcondition

/-- Of the names without blanks, one at most is read as the field of an assignment. -/
theorem Gets.unique {stmt : Statement} {t u : Transfer} (ht : c.Gets stmt t) (hu : c.Gets stmt u)
    (htfield : ' ' ∉ t.field.toList) (hufield : ' ' ∉ u.field.toList) : t = u := by
  have hkey := ht.key_eq hu
  obtain ⟨-, type, rfl⟩ := ht
  obtain ⟨-, type', heq⟩ := hu
  have hbody := (List.cons.inj (Statement.branch.inj heq).2).1
  have htext := congrArg String.toList (Statement.expr.inj hbody)
  have hblank : " = (".toList = ' ' :: "= (".toList := rfl
  simp only [String.toList_append, List.append_assoc, List.append_cancel_left_eq, hblank,
    List.cons_append] at htext
  exact Transfer.ext hkey
    (String.toList_inj.mp (Text.append_separator_inj htfield hufield htext).1)

/-! ## The effect of transfers -/

variable (c) in
/-- What is kept after the fields of a host were put under their keys, one after the other. -/
def save {α : Type} (ts : List Transfer) (host : String → α) : List Nat → Option α :=
  ts.foldl (fun store t =>
    match c.valueOf? t.key with
    | some key => Function.update store key (some (host t.field))
    | none => store) fun _ => none

variable (c) in
/-- The fields of a host after what is kept was got into them, one after the other. -/
def restore {α : Type} (ts : List Transfer) (store : List Nat → Option α) (host : String → α) :
    String → α :=
  ts.foldl (fun host t =>
    match (c.valueOf? t.key).bind store with
    | some value => Function.update host t.field value
    | none => host) host

section Effect

variable {α : Type}

/-- Every field whose key has a value is kept under it. -/
theorem save_transfers (names : List String) (host : String → α) (name : String) :
    c.save (names.map c.transfer) host (c.valueFor name) =
      if name ∈ names ∧ '\r' ∉ name.toList then some (host name) else none := by
  induction names using List.reverseRecOn with
  | nil => simp [save]
  | append_singleton names last ih =>
    simp only [save, List.map_append, List.map_singleton, List.foldl_append, List.foldl_cons,
      List.foldl_nil, valueOf?_transfer, List.mem_append, List.mem_singleton] at ih ⊢
    by_cases heq : name = last
    · subst heq
      by_cases hlegal : '\r' ∈ name.toList
      · simp [ih, hlegal]
      · simp [hlegal]
    · have hkey : c.valueFor name ≠ c.valueFor last := valueFor_injective.ne heq
      simp only [or_iff_left heq, ← ih]
      by_cases hlegal : '\r' ∈ last.toList
      · rw [if_pos hlegal]
      · rw [if_neg hlegal]
        exact Function.update_of_ne hkey ..

/-- Every field whose key has a value is restored from what is under it, if there is something. -/
theorem restore_transfers (names : List String) (store : List Nat → Option α) (host : String → α)
    (name : String) :
    c.restore (names.map c.transfer) store host name =
      if name ∈ names ∧ '\r' ∉ name.toList then (store (c.valueFor name)).getD (host name)
      else host name := by
  induction names using List.reverseRecOn with
  | nil => simp [restore]
  | append_singleton names last ih =>
    simp only [restore, List.map_append, List.map_singleton, List.foldl_append, List.foldl_cons,
      List.foldl_nil, List.mem_append, List.mem_singleton] at ih ⊢
    by_cases heq : name = last
    · subst heq
      by_cases hlegal : '\r' ∈ name.toList
      · simp [valueOf?_transfer, ih, hlegal]
      · cases hstore : store (c.valueFor name) with
        | none => simp [valueOf?_transfer, ih, hlegal, hstore]
        | some value => simp [valueOf?_transfer, hlegal, hstore]
    · simp only [or_iff_left heq, ← ih]
      cases (c.valueOf? (c.transfer last).key).bind store with
      | none => rfl
      | some value => exact Function.update_of_ne heq ..

/-- What was saved is restored, and nothing else is touched. -/
theorem restore_save (names : List String) (before after : String → α) :
    c.restore (names.map c.transfer) (c.save (names.map c.transfer) before) after =
      fun name => if name ∈ names ∧ '\r' ∉ name.toList then before name else after name := by
  funext name
  rw [restore_transfers, save_transfers]
  split
  · rfl
  · rfl

end Effect

/-! ## Agreement -/

variable (c) in
/-- Statements that save the fields of the given names and statements that restore them agree: they
are read as the same transfers, no other reading is possible, the keys and their values differ, and
a field that was saved is restored, while no other field is touched. -/
structure HandsOver (names : List String) (puts gets : List Statement) (ts : List Transfer) :
    Prop where
  /-- The transfers of the one method. -/
  saved : List.Forall₂ c.Puts puts ts
  /-- The transfers of the other, with the same keys and fields in the same order. -/
  restored : List.Forall₂ c.Gets gets ts
  /-- There is one for each field. -/
  fields : ts.map Transfer.field = names
  /-- There is no other reading of the statements that save. -/
  savedOnly : ∀ us, List.Forall₂ c.Puts puts us → us = ts
  /-- There is no other reading of the statements that restore with names that have no blanks. -/
  restoredOnly : (∀ name ∈ names, ' ' ∉ name.toList) → ∀ us,
    List.Forall₂ (fun stmt u => c.Gets stmt u ∧ ' ' ∉ u.field.toList) gets us → us = ts
  /-- The expressions of the keys differ. -/
  keys : (ts.map Transfer.key).Nodup
  /-- A key has the value of the constant and the name, unless its literal is broken. -/
  values : ∀ t ∈ ts, '\r' ∉ t.field.toList →
    c.valueOf? t.key = some (c.valueFor t.field)
  /-- The values of the keys differ. -/
  apart : ts.Pairwise fun t u => ∀ v ∈ c.valueOf? t.key, v ∉ c.valueOf? u.key
  /-- What was saved comes back unless the literal of its key is broken, and nothing else is
  touched. -/
  roundTrip : ∀ {α : Type} (before after : String → α),
    c.restore ts (c.save ts before) after =
      fun name => if name ∈ names ∧ '\r' ∉ name.toList then before name else after name

theorem forall₂_map_map {α β γ : Type} {R : β → γ → Prop} {g : α → β} {h : α → γ} {xs : List α}
    (hR : ∀ x ∈ xs, R (g x) (h x)) : List.Forall₂ R (xs.map g) (xs.map h) := by
  rw [List.forall₂_map_left_iff, List.forall₂_map_right_iff, List.forall₂_same]
  exact hR

/-- Statements that are read as the transfers of fields agree, if the names of the fields differ. -/
theorem handsOver {fields : List Field} {put get : Field → Statement}
    (hput : ∀ f, c.Puts (put f) (c.transfer f.name))
    (hget : ∀ f, c.Gets (get f) (c.transfer f.name)) (hdistinct : (fields.map (·.name)).Nodup) :
    c.HandsOver (fields.map (·.name)) (fields.map put) (fields.map get)
      (fields.map fun f => c.transfer f.name) := by
  have hsaved : List.Forall₂ c.Puts (fields.map put) (fields.map fun f => c.transfer f.name) :=
    forall₂_map_map fun f _ => hput f
  have hrestored : List.Forall₂ c.Gets (fields.map get) (fields.map fun f => c.transfer f.name) :=
    forall₂_map_map fun f _ => hget f
  have htransfers : (fields.map fun f => c.transfer f.name) =
      (fields.map (·.name)).map c.transfer := by
    rw [List.map_map]
    rfl
  constructor
  case saved => exact hsaved
  case restored => exact hrestored
  case fields =>
    rw [List.map_map]
    rfl
  case savedOnly =>
    intro us hus
    exact List.right_unique_forall₂' (fun _ _ _ ht hu => ht.unique hu) hus hsaved
  case restoredOnly =>
    intro hblank us hus
    have hread : List.Forall₂ (fun stmt u => c.Gets stmt u ∧ ' ' ∉ u.field.toList)
        (fields.map get) (fields.map fun f => c.transfer f.name) :=
      forall₂_map_map fun f hf => ⟨hget f, hblank f.name (List.mem_map_of_mem hf)⟩
    exact List.right_unique_forall₂' (fun _ _ _ ht hu => ht.1.unique hu.1 ht.2 hu.2) hus hread
  case keys =>
    rw [htransfers, List.map_map]
    exact List.Nodup.map key_transfer_injective hdistinct
  case values =>
    intro t ht hlegal
    obtain ⟨f, -, rfl⟩ := List.mem_map.mp ht
    rw [valueOf?_transfer]
    exact if_neg hlegal
  case apart =>
    rw [htransfers, List.pairwise_map]
    refine hdistinct.imp ?_
    intro name other hne v hv hv'
    rw [Option.mem_def, valueOf?_transfer, Option.ite_none_left_eq_some] at hv hv'
    exact hne (valueFor_injective (Option.some.inj (hv.2.trans hv'.2.symm)))
  case roundTrip =>
    intro α before after
    rw [htransfers]
    exact restore_save _ before after

end Channel

namespace Category

/-- A conditional that assigns the value that is got, with a cast, gets the field. -/
theorem gets_of_assignStatement {c : Channel} {f : Field} {stmt : Statement} {key type : String}
    (hkey : (c.transfer f.name).key = key)
    (hstmt : stmt = .branch (c.has ++ key ++ ")")
      [assignStatement f ("(" ++ type ++ (") " ++ c.get) ++ key ++ ")")]) :
    c.Gets stmt (c.transfer f.name) := by
  refine ⟨Channel.isKey_transfer f.name, type, ?_⟩
  rw [hstmt, hkey]
  simp only [String.append_assoc, assignStatement_cast]
  rfl

theorem InstanceState.puts_saveStatement (f : Field) :
    Channel.bundle.Puts (saveStatement f) (Channel.bundle.transfer f.name) :=
  ⟨Channel.isKey_transfer f.name, rfl⟩

theorem InstanceState.gets_restoreStatement (f : Field) :
    Channel.bundle.Gets (restoreStatement f) (Channel.bundle.transfer f.name) :=
  gets_of_assignStatement rfl rfl

/-- The keys of the map have nothing in front of their literals. -/
theorem NonConfiguration.key_transfer (f : Field) :
    (Channel.map.transfer f.name).key = keyExpression f :=
  String.empty_append

theorem NonConfiguration.puts_saveStatement (f : Field) :
    Channel.map.Puts (saveStatement f) (Channel.map.transfer f.name) := by
  refine ⟨Channel.isKey_transfer f.name, ?_⟩
  rw [key_transfer]
  rfl

theorem NonConfiguration.gets_restoreStatement (f : Field) :
    Channel.map.Gets (restoreStatement f) (Channel.map.transfer f.name) :=
  gets_of_assignStatement (key_transfer f) rfl

end Category

namespace HostBindings

/-- The members for the accepted fields of a kind, if there are any and the host allows the kind. -/
theorem members_run {host : Host} {options : Options} {steps : List BindingStep}
    {kind : BindingKind} (hfields : acceptedFor { host, options } steps kind ≠ [])
    (hsupports : kind.supports host.kind = true) :
    ((run { host, options } steps).stores.get kind).members kind host options =
      .ok (kind.members host options (acceptedFor { host, options } steps kind)) := by
  rw [Store.members, fields_run_start, if_neg (mt List.isEmpty_iff.mp hfields), if_pos hsupports]

/-- **What is saved is restored.** After any run on the bindings of a host that can keep instance
state, the method that saves the accepted fields and the method that restores them agree, where the
constant in front of the keys is a member beside them; and on an activity, so do the methods for the
fields that are handed over, of which the one that saves returns once, at its end. The key of a name
with a carriage return has no value, since its literal is broken: such a field is left as it was,
and the fields beside it are restored all the same. -/
theorem save_restore_agree (host : Host) (options : Options) (steps : List BindingStep) :
    let bindings := run { host, options } steps
    let accepted := acceptedFor { host, options } steps
    let cast : Statement :=
      .expr (host.qualifiedName ++ " target = (" ++ host.qualifiedName ++ ") object")
    (host.kind ∈ [.activity, .fragment, .view] → accepted .instanceState ≠ [] →
      ∃ constant save restore puts gets transfers,
        (bindings.stores.get .instanceState).members .instanceState host options =
          .ok [.field constant, .method save, .method restore] ∧
        constant.name = "INSTANCE_KEY_PREFIX" ∧
        (∃ initializer ∈ constant.initializer, Denotes initializer "shiv:instance:") ∧
        save.name = "saveInstance" ∧ save.body = cast :: puts ∧
        restore.name = "restoreInstance" ∧ restore.body = cast :: gets ∧
        Channel.bundle.HandsOver ((accepted .instanceState).map (·.name)) puts gets transfers) ∧
    (host.kind = .activity → accepted .nonConfiguration ≠ [] →
      ∃ save restore front puts gets transfers,
        (bindings.stores.get .nonConfiguration).members .nonConfiguration host options =
          .ok [.method save, .method restore] ∧
        save.name = "saveNonConfigurationInstance" ∧
        save.body = front ++ [.ret "instance"] ∧
        front = cast ::
          .expr "java.util.HashMap<String, Object> instance = new java.util.HashMap<>()" :: puts ∧
        (∀ stmt ∈ front, ∃ code, stmt = .expr code) ∧
        restore.name = "restoreNonConfigurationInstance" ∧
        restore.body = cast ::
          .expr "java.util.Map<String, Object> map = (java.util.Map<String, Object>) instance" ::
            gets ∧
        Channel.map.HandsOver ((accepted .nonConfiguration).map (·.name)) puts gets transfers) := by
  intro bindings accepted cast
  refine ⟨fun hkind hfields => ?_, fun hkind hfields => ?_⟩
  · have hsupports : BindingKind.instanceState.supports host.kind = true := by
      simp only [List.mem_cons, List.not_mem_nil, or_false] at hkind
      rcases hkind with hkind | hkind | hkind
      all_goals
        rw [hkind]
        rfl
    have hmembers := members_run hfields hsupports
    refine ⟨_, _, _, _, _, _, hmembers, rfl, ?_, rfl, rfl, rfl, rfl,
      Channel.handsOver Category.InstanceState.puts_saveStatement
        Category.InstanceState.gets_restoreStatement (nodup_acceptedFor host options steps _)⟩
    exact ⟨literal "shiv:instance:", rfl, (Target.literal_denotes_iff _ _).mpr ⟨rfl, by decide⟩⟩
  · have hsupports : BindingKind.nonConfiguration.supports host.kind = true := by
      rw [hkind]
      rfl
    have hmembers := members_run hfields hsupports
    refine ⟨_, _, _, _, _, _, hmembers, rfl, rfl, rfl, ?_, rfl, rfl,
      Channel.handsOver Category.NonConfiguration.puts_saveStatement
        Category.NonConfiguration.gets_restoreStatement (nodup_acceptedFor host options steps _)⟩
    intro stmt hstmt
    rcases List.mem_cons.mp hstmt with rfl | hstmt
    · exact ⟨_, rfl⟩
    · rcases List.mem_cons.mp hstmt with rfl | hput
      · exact ⟨_, rfl⟩
      · obtain ⟨f, -, rfl⟩ := List.mem_map.mp hput
        exact ⟨_, rfl⟩

/-- A name with a quote in it, and the same name without, on an activity. -/
theorem save_restore_of_quoted_name :
    let start : HostBindings := { host := .ofQualifiedName "a.Main" .activity }
    let plain : Field := { name := "count", type := "int" }
    let quoted : Field := { name := "count\"", type := "long" }
    let steps : List BindingStep :=
      [.add .instanceState plain, .add .instanceState quoted, .add .instanceState plain,
        .add .nonConfiguration quoted]
    start.acceptedFor steps .instanceState = [plain, quoted] ∧
      (∃ puts gets transfers,
        Channel.bundle.HandsOver ["count", "count\""] puts gets transfers) ∧
      start.acceptedFor steps .nonConfiguration = [quoted] ∧
      ∃ puts gets transfers, Channel.map.HandsOver ["count\""] puts gets transfers := by
  intro start plain quoted steps
  have hstate : start.acceptedFor steps .instanceState = [plain, quoted] := by decide +kernel
  have hhanded : start.acceptedFor steps .nonConfiguration = [quoted] := by decide +kernel
  obtain ⟨hbundle, hmap⟩ := save_restore_agree start.host start.options steps
  obtain ⟨-, -, -, puts, gets, transfers, -, -, -, -, -, -, -, hagree⟩ :=
    hbundle (by decide) (by rw [hstate]; simp)
  obtain ⟨-, -, -, puts', gets', transfers', -, -, -, -, -, -, -, hagree'⟩ :=
    hmap rfl (by rw [hhanded]; simp)
  rw [hstate] at hagree
  rw [hhanded] at hagree'
  exact ⟨hstate, ⟨puts, gets, transfers, hagree⟩, hhanded, puts', gets', transfers', hagree'⟩

end HostBindings

end Bindery
