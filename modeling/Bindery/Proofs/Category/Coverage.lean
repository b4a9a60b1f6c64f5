import Bindery.Proofs.Category.Acceptance

/-!
# Members that cover their fields

What the members of each kind owe to the fields they are made for, stated field by field: after a
fixed beginning, a method has one block of statements for each field, in the order of the fields,
written with the field's own data. The texts of methods and blocks are spelled out here, apart from
the helpers that write them. The blocks are described by what the field has, so a field without an
id, a key or a name for its service has no block. For accepted fields the members keep what they
owe.

## Main definitions

* `Covers`: a list of statements is one block for each field, in order
* `Preference.readers`, `Service.wellKnown`: the types that can be read and looked up, and how
* `View.Binds`, `Preference.Binds`, `Extra.Binds`, `Service.Binds`: the block that binds a field
* `overridingMethod`: the method that holds the blocks of a kind
* `Emits`: the members of a kind cover the fields

## Main results

* `emits_members`: the members for accepted fields cover them
-/

namespace Bindery.Category

/-- The statements are one block for each field, in the order of the fields. -/
inductive Covers (block : Field → List Statement → Prop) : List Field → List Statement → Prop where
  | nil : Covers block [] []
  | cons {f : Field} {fields : List Field} {stmts rest : List Statement} :
      block f stmts → Covers block fields rest → Covers block (f :: fields) (stmts ++ rest)

section Covers

variable {block : Field → List Statement → Prop} {fields : List Field}

theorem Covers.of_flatMap {emit : Field → List Statement} (h : ∀ f ∈ fields, block f (emit f)) :
    Covers block fields (fields.flatMap emit) := by
  induction fields with
  | nil => exact .nil
  | cons f fields ih =>
    rw [List.flatMap_cons]
    exact .cons (h f List.mem_cons_self) (ih fun g hg => h g (List.mem_cons_of_mem f hg))

theorem Covers.of_map {emit : Field → Statement} (h : ∀ f ∈ fields, block f [emit f]) :
    Covers block fields (fields.map emit) := by
  rw [List.map_eq_flatMap]
  exact Covers.of_flatMap h

end Covers

/-! ## The blocks of each kind -/

/-- The runtime exception is thrown with a message. -/
def throwing (options : Options) (message : String) : Statement :=
  let exception :=
    if options.runtimePackage = "" then "ShivException"
    else options.runtimePackage ++ ".ShivException"
  .expr ("throw new " ++ exception ++ "(" ++ Target.literal message ++ ")")

/-- A view is looked up by the field's own id, a resource id, below the host or the view of a
fragment, and the null check follows exactly if the field is not optional. -/
def View.Binds (host : Host) (options : Options) (f : Field) (stmts : List Statement) : Prop :=
  ∃ id : Int, f.id = some id ∧ 1 ≤ id ∧ id ≤ 2147483647 ∧
    let root := if host.kind = .fragment then "target.getView()" else "target"
    stmts =
      .expr ("target." ++ f.name ++ " = (" ++ f.type ++ ") " ++ root ++ ".findViewById(" ++
          toString id ++ ")") ::
        if f.optional then []
        else
          [.branch ("target." ++ f.name ++ " == null")
            [throwing options
              ("View with id " ++ toString id ++ " for field " ++ f.name ++ " not found")]]

/-- A view is let go of. -/
def View.Unbinds (f : Field) (stmts : List Statement) : Prop :=
  stmts = [.expr ("target." ++ f.name ++ " = null")]

/-- The methods that read preferences, each with the value of an absent one and with the types that
it reads. -/
def Preference.readers : List (String × String × List String) :=
  [("getBoolean", "false", ["boolean", "java.lang.Boolean"]),
   ("getInt", "0", ["int", "java.lang.Integer"]),
   ("getLong", "0L", ["long", "java.lang.Long"]),
   ("getFloat", "0f", ["float", "java.lang.Float"]),
   ("getString", "null", ["java.lang.String"]),
   ("getStringSet", "null", ["java.util.Set<java.lang.String>"])]

/-- A preference is read if there is one under the field's own key, which is not empty, with the
method for the field's type. -/
def Preference.Binds (f : Field) (stmts : List Statement) : Prop :=
  ∃ key getter absent types, f.key = some key ∧ key ≠ "" ∧
    (getter, absent, types) ∈ readers ∧ f.type ∈ types ∧
    stmts =
      [.branch ("preferences.contains(" ++ Target.literal key ++ ")")
        [.expr ("target." ++ f.name ++ " = preferences." ++ getter ++ "(" ++
          Target.literal key ++ ", " ++ absent ++ ")")]]

/-- The key of an extra is the explicit one, or the field's name if there is none. -/
def Extra.HasKey (f : Field) (key : String) : Prop :=
  f.key = some key ∧ key ≠ "" ∨ (f.key = none ∨ f.key = some "") ∧ key = f.name

/-- An extra is read if there is one, and a missing one is an error exactly if the field is not
optional. -/
def Extra.Binds (options : Options) (f : Field) (stmts : List Statement) : Prop :=
  ∃ key, HasKey f key ∧
    let condition := "hasExtra(target, " ++ Target.literal key ++ ")"
    let read : Statement :=
      .expr ("target." ++ f.name ++ " = (" ++ Target.boxed f.type ++ ") getExtra(target, " ++
        Target.literal key ++ ")")
    stmts =
      if f.optional then [.branch condition [read]]
      else
        [.branchElse condition [read]
          [throwing options
            ("Required extra '" ++ key ++ "' for field " ++ f.name ++ " not found")]]

/-- A value is put into the bundle under the constant and the field's name. -/
def InstanceState.Saves (f : Field) (stmts : List Statement) : Prop :=
  let key := "INSTANCE_KEY_PREFIX + " ++ Target.literal f.name
  stmts = [.expr ("putInstance(bundle, " ++ key ++ ", target." ++ f.name ++ ")")]

/-- A value is read back if the bundle has one under the same key. -/
def InstanceState.Restores (f : Field) (stmts : List Statement) : Prop :=
  let key := "INSTANCE_KEY_PREFIX + " ++ Target.literal f.name
  stmts =
    [.branch ("bundle.containsKey(" ++ key ++ ")")
      [.expr ("target." ++ f.name ++ " = (" ++ Target.boxed f.type ++ ") getInstance(bundle, " ++
        key ++ ")")]]

/-- A value is put into the map under the field's name. -/
def NonConfiguration.Saves (f : Field) (stmts : List Statement) : Prop :=
  stmts =
    [.expr ("instance.put(" ++ Target.literal f.name ++ ", target." ++ f.name ++ ")")]

/-- A value is read back if the map has one under the field's name. -/
def NonConfiguration.Restores (f : Field) (stmts : List Statement) : Prop :=
  stmts =
    [.branch ("map.containsKey(" ++ Target.literal f.name ++ ")")
      [.expr ("target." ++ f.name ++ " = (" ++ Target.boxed f.type ++ ") map.get(" ++
        Target.literal f.name ++ ")")]]

/-- The types of services that are found without a key, each with the name of its service. -/
def Service.wellKnown : List (String × String) :=
  [("android.view.LayoutInflater", "android.content.Context.LAYOUT_INFLATER_SERVICE"),
   ("android.app.NotificationManager", "android.content.Context.NOTIFICATION_SERVICE"),
   ("android.app.AlarmManager", "android.content.Context.ALARM_SERVICE"),
   ("android.net.ConnectivityManager", "android.content.Context.CONNECTIVITY_SERVICE"),
   ("android.view.inputmethod.InputMethodManager", "android.content.Context.INPUT_METHOD_SERVICE"),
   ("android.os.Vibrator", "android.content.Context.VIBRATOR_SERVICE"),
   ("android.view.WindowManager", "android.content.Context.WINDOW_SERVICE"),
   ("android.content.ClipboardManager", "android.content.Context.CLIPBOARD_SERVICE"),
   ("android.media.AudioManager", "android.content.Context.AUDIO_SERVICE"),
   ("android.location.LocationManager", "android.content.Context.LOCATION_SERVICE")]

/-- A service is named by the field's key, or by the constant of its type if there is no key. -/
def Service.HasName (f : Field) (service : String) : Prop :=
  (∃ key, f.key = some key ∧ key ≠ "" ∧ service = Target.literal key) ∨
    (f.key = none ∨ f.key = some "") ∧ (f.type, service) ∈ wellKnown

/-- A service is assigned by its name. -/
def Service.Binds (f : Field) (stmts : List Statement) : Prop :=
  ∃ service, HasName f service ∧
    stmts =
      [.expr ("target." ++ f.name ++ " = (" ++ f.type ++ ") getSystemService(target, " ++
        service ++ ")")]

/-! ## Statements of accepted fields -/

variable {f : Field}

/-- What a look-up finds in a table is an entry of the table. -/
theorem mem_of_lookup {β : Type} {table : List (String × β)} {key : String} {value : β}
    (h : table.lookup key = some value) : (key, value) ∈ table := by
  obtain ⟨before, after, rfl, -⟩ := List.lookup_eq_some_iff.mp h
  exact List.mem_append_right before List.mem_cons_self

/-- The opening bracket of a cast belongs to the text of the assignment. -/
theorem assignStatement_cast (f : Field) (value : String) :
    assignStatement f ("(" ++ value) = .expr ("target." ++ f.name ++ " = (" ++ value) := by
  have hassign : " = (" = " = " ++ "(" := rfl
  rw [assignStatement, hassign]
  simp only [String.append_assoc]

theorem throwStatement_eq (options : Options) (message : String) :
    throwStatement options message = throwing options message := by
  have hname : ".ShivException" = "." ++ "ShivException" := rfl
  rw [throwStatement, Options.exceptionClass, Options.runtimeClass, throwing, hname]
  simp only [String.append_assoc]

theorem View.root_eq (host : Host) :
    root host = if host.kind = .fragment then "target.getView()" else "target" := by
  rw [root]
  cases host.kind <;> rfl

theorem View.binds_bindStatements (host : Host) (options : Options) (h : View.check f = .ok ()) :
    View.Binds host options f (bindStatements host options f) := by
  obtain ⟨id, hid, hlow, hhigh, -⟩ := View.check_eq_ok_iff.mp h
  refine ⟨id, hid, hlow, hhigh, ?_⟩
  have hidOf : idOf f = id := by rw [idOf, hid, Option.getD_some]
  rw [bindStatements, hidOf]
  simp only [root_eq, throwStatement_eq, String.append_assoc, assignStatement_cast]
  cases f.optional <;> rfl

theorem View.unbinds_unbindStatement (f : Field) : View.Unbinds f [unbindStatement f] := by
  have hassign : " = null" = " = " ++ "null" := rfl
  rw [Unbinds, unbindStatement, assignStatement, hassign]
  simp only [String.append_assoc]

/-- The accessor of a type is one of the methods that read preferences. -/
theorem Preference.exists_mem_readers {type : String} {accessor : Accessor}
    (h : accessor? type = some accessor) :
    ∃ types, (accessor.getter, accessor.default, types) ∈ readers ∧ type ∈ types := by
  have hall : ∀ entry ∈ accessors, ∃ reader ∈ readers,
      reader.1 = entry.2.getter ∧ reader.2.1 = entry.2.default ∧ entry.1 ∈ reader.2.2 := by
    decide
  obtain ⟨⟨getter, absent, types⟩, hreader, rfl, rfl, htype⟩ := hall _ (mem_of_lookup h)
  exact ⟨types, hreader, htype⟩

theorem Preference.binds_bindStatements (h : Preference.check f = .ok ()) :
    Preference.Binds f (bindStatements f) := by
  obtain ⟨key, accessor, hkey, haccessor⟩ := Preference.check_eq_ok_iff.mp h
  obtain ⟨hgiven, hne⟩ := Field.explicitKey_eq_some_iff.mp hkey
  obtain ⟨types, hreader, htype⟩ := exists_mem_readers haccessor
  refine ⟨key, accessor.getter, accessor.default, types, hgiven, hne, hreader, htype, ?_⟩
  have hassign : " = preferences." = " = " ++ "preferences." := rfl
  rw [bindStatements, haccessor, hkey, Option.getD_some, hassign]
  simp only [assignStatement, String.append_assoc]

theorem Extra.hasKey_keyOf (f : Field) : Extra.HasKey f (keyOf f) := by
  rw [keyOf]
  cases hkey : f.explicitKey with
  | none => exact Or.inr ⟨Field.explicitKey_eq_none_iff.mp hkey, rfl⟩
  | some key => exact Or.inl (Field.explicitKey_eq_some_iff.mp hkey)

theorem Extra.binds_bindStatement (options : Options) (f : Field) :
    Extra.Binds options f [bindStatement options f] := by
  refine ⟨keyOf f, hasKey_keyOf f, ?_⟩
  rw [bindStatement]
  simp only [throwStatement_eq, String.append_assoc, assignStatement_cast]
  cases f.optional <;> rfl

theorem InstanceState.restores_restoreStatement (f : Field) :
    InstanceState.Restores f [restoreStatement f] := by
  have hkey : keyExpression f = "INSTANCE_KEY_PREFIX + " ++ Target.literal f.name := rfl
  rw [Restores, restoreStatement, hkey]
  simp only [String.append_assoc, assignStatement_cast]

theorem NonConfiguration.restores_restoreStatement (f : Field) :
    NonConfiguration.Restores f [restoreStatement f] := by
  rw [Restores, restoreStatement, keyExpression]
  simp only [String.append_assoc, assignStatement_cast]

/-- The constant of a type is the name of a well-known service. -/
theorem Service.mem_wellKnown {type constant : String} (h : constants.lookup type = some constant) :
    (type, "android.content.Context." ++ constant) ∈ wellKnown := by
  have hall : ∀ entry ∈ constants,
      (entry.1, "android.content.Context." ++ entry.2) ∈ wellKnown := by
    decide
  exact hall (type, constant) (mem_of_lookup h)

theorem Service.binds_bindStatements (h : Service.check f = .ok ()) :
    Service.Binds f (bindStatements f) := by
  obtain ⟨-, service, hservice⟩ := Service.check_eq_ok_iff.mp h
  refine ⟨service, ?_, ?_⟩
  · rcases Service.nameExpression?_eq_some_iff.mp hservice with
      ⟨key, hkey, rfl⟩ | ⟨hkey, constant, hconstant, rfl⟩
    · obtain ⟨hgiven, hne⟩ := Field.explicitKey_eq_some_iff.mp hkey
      exact Or.inl ⟨key, hgiven, hne, rfl⟩
    · exact Or.inr ⟨Field.explicitKey_eq_none_iff.mp hkey, mem_wellKnown hconstant⟩
  · rw [bindStatements, hservice]
    simp only [String.append_assoc, assignStatement_cast]

/-! ## Members of accepted fields -/

/-- The method that overrides one of the base class: it is public, takes the host as an object, and
starts by casting it. -/
def overridingMethod (host : Host) (name : String) (params : List Parameter)
    (stmts : List Statement) (returns : Option String := none) : Member :=
  .method
    { name, returns
      annotations := [{ name := "java.lang.Override" }]
      modifiers := [.isPublic]
      params := { name := "object", type := "java.lang.Object" } :: params
      body :=
        .expr (host.qualifiedName ++ " target = (" ++ host.qualifiedName ++ ") object") :: stmts }

/-- The members of a kind: each method starts in its fixed way, and its other statements cover the
fields. -/
inductive Emits (host : Host) (options : Options) :
    BindingKind → List Field → List Member → Prop where
  | view {fields : List Field} {bind unbind : List Statement} :
      Covers (View.Binds host options) fields bind → Covers View.Unbinds fields unbind →
      Emits host options .view fields
        [overridingMethod host "bindViews" [] bind, overridingMethod host "unbindViews" [] unbind]
  | preference {fields : List Field} {bind : List Statement} :
      Covers Preference.Binds fields bind →
      Emits host options .preference fields
        [overridingMethod host "bindPreferences" []
          (.expr "android.content.SharedPreferences preferences = getPreferences(target)" :: bind)]
  | extra {fields : List Field} {bind : List Statement} :
      Covers (Extra.Binds options) fields bind →
      Emits host options .extra fields [overridingMethod host "bindExtras" [] bind]
  | instanceState {fields : List Field} {save restore : List Statement} :
      Covers InstanceState.Saves fields save → Covers InstanceState.Restores fields restore →
      Emits host options .instanceState fields
        [.field
            { name := "INSTANCE_KEY_PREFIX"
              type := "java.lang.String"
              modifiers := [.isPrivate, .isStatic, .isFinal]
              initializer := some (Target.literal "shiv:instance:") },
          overridingMethod host "saveInstance"
            [{ name := "bundle", type := "android.os.Bundle" }] save,
          overridingMethod host "restoreInstance"
            [{ name := "bundle", type := "android.os.Bundle" }] restore]
  | nonConfiguration {fields : List Field} {save restore : List Statement} :
      Covers NonConfiguration.Saves fields save →
      Covers NonConfiguration.Restores fields restore →
      Emits host options .nonConfiguration fields
        [overridingMethod host "saveNonConfigurationInstance" []
            (.expr "java.util.HashMap<String, Object> instance = new java.util.HashMap<>()" ::
              save ++ [.ret "instance"])
            (some "java.lang.Object"),
          overridingMethod host "restoreNonConfigurationInstance"
            [{ name := "instance", type := "java.lang.Object" }]
            (.expr "java.util.Map<String, Object> map = (java.util.Map<String, Object>) instance" ::
              restore)]
  | service {fields : List Field} {bind : List Statement} :
      Covers Service.Binds fields bind →
      Emits host options .service fields [overridingMethod host "bindServices" [] bind]

/-- The members that a kind makes for fields that it accepts cover these fields. -/
theorem emits_members (host : Host) (options : Options) {kind : BindingKind} {fields : List Field}
    (h : ∀ f ∈ fields, kind.check f = .ok ()) :
    Emits host options kind fields (kind.members host options fields) := by
  cases kind with
  | view =>
    refine .view (Covers.of_flatMap fun f hf => ?_) (Covers.of_map fun f _ => ?_)
    · exact View.binds_bindStatements host options (h f hf)
    · exact View.unbinds_unbindStatement f
  | preference =>
    exact .preference (Covers.of_flatMap fun f hf => Preference.binds_bindStatements (h f hf))
  | extra => exact .extra (Covers.of_map fun f _ => Extra.binds_bindStatement options f)
  | instanceState =>
    refine .instanceState (Covers.of_map fun f _ => rfl) (Covers.of_map fun f _ => ?_)
    exact InstanceState.restores_restoreStatement f
  | nonConfiguration =>
    refine .nonConfiguration (Covers.of_map fun f _ => rfl) (Covers.of_map fun f _ => ?_)
    exact NonConfiguration.restores_restoreStatement f
  | service =>
    exact .service (Covers.of_flatMap fun f hf => Service.binds_bindStatements (h f hf))

end Bindery.Category
