import Mathlib.Data.List.Nodup
import Stowage.Config
import Stowage.Proofs.Naming
import Stowage.Proofs.Text.Lowering

/-! # The grammar of configurations

A document is accepted as a configuration if and only if it is an object of the known fields, all
texts, whose name and access type have their form (`ofDocument_iff_grammar`).  Any other document is
refused with every fault of its shape, or with every rule that its texts break if there is no such
fault; only the latter is reported (`reports_cases`).
-/

namespace Stowage

namespace AccessType

open Text

/-- The words for an access type: its name with ASCII letters of either case. -/
def IsWord (text : String) : Prop :=
  ∃ access : AccessType, EqIgnoringCase text.toList access.name.toList

variable {text : String}

theorem letters_name (access : AccessType) :
    ∀ d ∈ access.name.toList, d.isAlpha = true ∧ d ≠ 'k' := by
  have checked : access.name.toList.all (fun d => d.isAlpha && d != 'k') = true := by
    cases access <;> decide
  intro d member
  simpa using List.all_eq_true.mp checked d member

theorem map_toLower_name (access : AccessType) :
    access.name.toList.map Char.toLower = access.name.toList := by
  cases access <;> decide

theorem normalized_eq_name_iff (access : AccessType) :
    normalized text = access.name ↔ EqIgnoringCase text.toList access.name.toList := by
  rw [← lower_eq_iff_eqIgnoringCase (letters_name access) (map_toLower_name access), normalized,
    ← String.toList_inj, String.toList_ofList]

theorem isSome_ofText?_iff : (ofText? text).isSome = true ↔ IsWord text := by
  simp only [ofText?, List.find?_isSome, beq_iff_eq, IsWord, ← normalized_eq_name_iff]
  constructor
  · rintro ⟨access, _, same⟩
    exact ⟨access, same.symm⟩
  · rintro ⟨access, same⟩
    exact ⟨access, by cases access <;> decide, same.symm⟩

theorem IsWord.ascii (word : IsWord text) : ∀ c ∈ text.toList, c.val < 0x80 := by
  obtain ⟨access, same⟩ := word
  rw [EqIgnoringCase, map_toLower_name] at same
  intro c member
  have lowered : c.toLower ∈ access.name.toList := same ▸ List.mem_map_of_mem member
  exact toNat_lt_of_isAlpha (isAlpha_of_toLower (letters_name access _ lowered).1)

/-- The message about an unknown access type names all that are known. -/
theorem violation?_eq : violation? text =
    if (ofText? text).isSome = true then none
    else some (s!"container access type '{text}' is invalid, must be one of " ++
      "'private', 'blob', 'container'") := by
  have allowed : String.intercalate ", " (all.map fun access => s!"'{access.name}'") =
      "'private', 'blob', 'container'" := by decide
  rw [violation?]
  cases ofText? text with
  | some access => rfl
  | none =>
      simp only [allowed, Option.isSome_none, Bool.false_eq_true, if_false]
      simp [String.append_assoc]
      rfl

end AccessType

namespace Shape

/-- The faults of a document: no object is there, a field is missing or holds no text, or a field is
there that a closed shape does not name. -/
inductive IsFault (shape : Shape) : Document → Fault → Prop where
  | notAnObject {document : Document} (other : ∀ fields, document ≠ .object fields) :
      IsFault shape document ⟨none, .notAnObject⟩
  | missing {fields : Document.Fields} {key : String} (required : key ∈ shape.required)
      (absent : fields.get? key = none) : IsFault shape (.object fields) ⟨some key, .missing⟩
  | notText {fields : Document.Fields} {key : String} {value : Document}
      (named : key ∈ shape.required ++ shape.optional) (given : fields.get? key = some value)
      (other : ∀ text, value ≠ .text text) : IsFault shape (.object fields) ⟨some key, .notText⟩
  | unexpected {fields : Document.Fields} {key : String} (closed : shape.closed = true)
      (given : key ∈ fields.map Prod.fst) (unnamed : key ∉ shape.required ++ shape.optional) :
      IsFault shape (.object fields) ⟨some key, .unexpected⟩

variable {shape : Shape} {fields : Document.Fields} {key : String} {fault : Fault}

theorem mem_valueFaults_iff {value : Document} :
    fault ∈ valueFaults key value ↔ fault = ⟨some key, .notText⟩ ∧ ∀ text, value ≠ .text text := by
  cases value <;> simp [valueFaults]

theorem mem_extraFaults_iff : fault ∈ shape.extraFaults fields ↔
    ∃ key, shape.closed = true ∧ key ∈ fields.map Prod.fst ∧
      key ∉ shape.required ++ shape.optional ∧ fault = ⟨some key, .unexpected⟩ := by
  unfold extraFaults
  cases shape.closed with
  | false => simp
  | true =>
      simp only [if_true, List.mem_map, List.mem_filter, Bool.not_eq_true', true_and,
        List.contains_eq_mem, decide_eq_false_iff_not]
      constructor
      · rintro ⟨field, ⟨given, unnamed⟩, rfl⟩
        exact ⟨field.1, ⟨field, given, rfl⟩, unnamed, rfl⟩
      · rintro ⟨key, ⟨field, given, rfl⟩, unnamed, rfl⟩
        exact ⟨field, ⟨given, unnamed⟩, rfl⟩

theorem mem_namedFaults_iff : fault ∈ shape.namedFaults fields ↔
    (∃ key ∈ shape.required, fields.get? key = none ∧ fault = ⟨some key, .missing⟩) ∨
    ∃ key ∈ shape.required ++ shape.optional, ∃ value, fields.get? key = some value ∧
      (∀ text, value ≠ .text text) ∧ fault = ⟨some key, .notText⟩ := by
  simp only [namedFaults, List.mem_append, List.mem_flatMap]
  constructor
  · rintro (⟨key, required, reported⟩ | ⟨key, optional, reported⟩)
    · cases given : fields.get? key with
      | none =>
          rw [given] at reported
          exact .inl ⟨key, required, given, List.mem_singleton.mp reported⟩
      | some value =>
          rw [given] at reported
          obtain ⟨rfl, other⟩ := mem_valueFaults_iff.mp reported
          exact .inr ⟨key, .inl required, value, given, other, rfl⟩
    · cases given : fields.get? key with
      | none => rw [given] at reported; cases reported
      | some value =>
          rw [given] at reported
          obtain ⟨rfl, other⟩ := mem_valueFaults_iff.mp reported
          exact .inr ⟨key, .inr optional, value, given, other, rfl⟩
  · rintro (⟨key, required, absent, rfl⟩ | ⟨key, required | optional, value, given, other, rfl⟩)
    · exact .inl ⟨key, required, by simp [absent]⟩
    · exact .inl ⟨key, required, by rw [given]; exact mem_valueFaults_iff.mpr ⟨rfl, other⟩⟩
    · exact .inr ⟨key, optional, by rw [given]; exact mem_valueFaults_iff.mpr ⟨rfl, other⟩⟩

theorem mem_faults_iff {document : Document} :
    fault ∈ shape.faults document ↔ shape.IsFault document fault := by
  constructor
  · intro reported
    cases document with
    | object fields =>
        rcases List.mem_append.mp reported with known | extra
        · rcases mem_namedFaults_iff.mp known with
            ⟨key, required, absent, rfl⟩ | ⟨key, named, value, given, other, rfl⟩
          · exact .missing required absent
          · exact .notText named given other
        · obtain ⟨key, closed, given, unnamed, rfl⟩ := mem_extraFaults_iff.mp extra
          exact .unexpected closed given unnamed
    | _ => 
        obtain rfl := List.mem_singleton.mp reported
        exact .notAnObject nofun
  · intro fault
    cases fault with
    | notAnObject other =>
        cases document with
        | object fields => exact absurd rfl (other fields)
        | _ => exact List.mem_singleton.mpr rfl
    | missing required absent =>
        exact List.mem_append_left _ (mem_namedFaults_iff.mpr (.inl ⟨_, required, absent, rfl⟩))
    | notText named given other =>
        exact List.mem_append_left _
          (mem_namedFaults_iff.mpr (.inr ⟨_, named, _, given, other, rfl⟩))
    | unexpected closed given unnamed =>
        exact List.mem_append_right _ (mem_extraFaults_iff.mpr ⟨_, closed, given, unnamed, rfl⟩)

section Once

theorem fields_namedFaults_sublist :
    ((shape.namedFaults fields).map Fault.field).Sublist
      ((shape.required ++ shape.optional).map some) := by
  have each (faults : String → List Fault)
      (own : ∀ key, ((faults key).map Fault.field).Sublist [some key]) (keys : List String) :
      ((keys.flatMap faults).map Fault.field).Sublist (keys.map some) := by
    induction keys with
    | nil => exact .slnil
    | cons key rest ih =>
        rw [List.flatMap_cons, List.map_append]
        exact (own key).append ih
  rw [namedFaults, List.map_append, List.map_append]
  refine (each _ (fun key => ?_) _).append (each _ (fun key => ?_) _)
  · split
    · next value _ => cases value <;> simp [valueFaults]
    · simp
  · split
    · next value _ => cases value <;> simp [valueFaults]
    · simp

theorem fields_extraFaults_sublist :
    ((shape.extraFaults fields).map Fault.field).Sublist
      (((fields.map Prod.fst).filter fun key =>
        !(shape.required ++ shape.optional).contains key).map some) := by
  unfold extraFaults
  split
  · rw [List.filter_map, List.map_map, List.map_map]
    exact List.Sublist.refl _
  · simp

/-- Where no field is given twice, no field has two faults. -/
theorem nodup_faults (distinct : (shape.required ++ shape.optional).Nodup)
    (single : (fields.map Prod.fst).Nodup) : (shape.faults (.object fields)).Nodup := by
  -- Even the fields of the faults are distinct: the shape names those of the first part, and it
  -- names none of those of the second.
  refine List.Nodup.of_map Fault.field ?_
  rw [faults, List.map_append]
  refine (fields_namedFaults_sublist.append fields_extraFaults_sublist).nodup ?_
  rw [← List.map_append]
  refine List.Nodup.map (fun _ _ => Option.some.inj) ?_
  refine List.nodup_append.mpr ⟨distinct, single.filter _, ?_⟩
  rintro key named _ given rfl
  have unnamed := (List.mem_filter.mp given).2
  simp [List.contains_eq_mem, named] at unnamed

end Once

end Shape

namespace Config

/-- The fields of an object are those of a configuration and hold the given texts. -/
structure Declares (fields : Document.Fields) (name group account accessText : String) : Prop where
  known : ∀ key ∈ fields.map Prod.fst, key ∈
    ["name", "resource_group_name", "storage_account_name", "container_access_type"]
  name : fields.get? "name" = some (.text name)
  group : fields.get? "resource_group_name" = some (.text group)
  account : fields.get? "storage_account_name" = some (.text account)
  access : fields.get? "container_access_type" = some (.text accessText) ∨
    fields.get? "container_access_type" = none ∧ accessText = "private"

/-- What is said about a name and an access type: about each of the two that has not its form, and
about the name one message for every rule that it breaks. -/
structure Violations.Describe (name accessText : String) (violations : Violations) : Prop where
  field_iff (field : String) : field ∈ violations.map Prod.fst ↔
    field = "name" ∧ ¬Naming.IsName name ∨
      field = "container_access_type" ∧ ¬AccessType.IsWord accessText
  once : (violations.map Prod.fst).Nodup
  name {messages : List String} (about : ("name", messages) ∈ violations) :
    ∃ broken : List Naming.Violation, broken.Sublist Naming.rules ∧
      (∀ rule, rule ∈ broken ↔ rule.IsBrokenBy name) ∧
      messages = broken.map (Naming.Violation.message "name" name)
  access {messages : List String} (about : ("container_access_type", messages) ∈ violations) :
    messages = [s!"container access type '{accessText}' is invalid, must be one of " ++
      "'private', 'blob', 'container'"]

variable {fields : Document.Fields} {name group account accessText : String}

theorem Declares.faultless (declares : Declares fields name group account accessText) :
    shape.faults (.object fields) = [] := by
  refine List.eq_nil_iff_forall_not_mem.mpr fun fault reported => ?_
  cases Shape.mem_faults_iff.mp reported with
  | notAnObject other => exact other fields rfl
  | @missing _ key required absent =>
      have named : key = "name" ∨ key = "resource_group_name" ∨ key = "storage_account_name" := by
        simpa [shape, Field.key] using required
      rcases named with rfl | rfl | rfl
      · cases declares.name.symm.trans absent
      · cases declares.group.symm.trans absent
      · cases declares.account.symm.trans absent
  | @notText _ key value named given other =>
      have named : key = "name" ∨ key = "resource_group_name" ∨ key = "storage_account_name" ∨
          key = "container_access_type" := by
        simpa [shape, Field.key] using named
      rcases named with rfl | rfl | rfl | rfl
      · exact other _ (Option.some.inj (given.symm.trans declares.name))
      · exact other _ (Option.some.inj (given.symm.trans declares.group))
      · exact other _ (Option.some.inj (given.symm.trans declares.account))
      · rcases declares.access with held | ⟨absent, _⟩
        · exact other _ (Option.some.inj (given.symm.trans held))
        · cases given.symm.trans absent
  | unexpected closed given unnamed => exact unnamed (declares.known _ given)

theorem exists_declares_of_faultless (faultless : shape.faults (.object fields) = []) :
    ∃ name group account accessText, Declares fields name group account accessText := by
  have unfaulty (fault : Shape.Fault) : ¬shape.IsFault (.object fields) fault := by
    rw [← Shape.mem_faults_iff, faultless]
    exact List.not_mem_nil
  have text (key : String) (named : key ∈ shape.required ++ shape.optional) :
      fields.get? key = none ∨ ∃ text, fields.get? key = some (.text text) := by
    cases given : fields.get? key with
    | none => exact .inl rfl
    | some value =>
        refine .inr (Classical.byContradiction fun other => unfaulty _ (.notText named given ?_))
        rintro text rfl
        exact other ⟨text, rfl⟩
  have required (key : String) (needed : key ∈ shape.required) :
      ∃ text, fields.get? key = some (.text text) :=
    (text key (List.mem_append_left _ needed)).resolve_left fun absent =>
      unfaulty _ (.missing needed absent)
  obtain ⟨name, hasName⟩ := required "name" (by decide)
  obtain ⟨group, hasGroup⟩ := required "resource_group_name" (by decide)
  obtain ⟨account, hasAccount⟩ := required "storage_account_name" (by decide)
  have known : ∀ key ∈ fields.map Prod.fst, key ∈ shape.required ++ shape.optional :=
    fun key given => Decidable.byContradiction fun unnamed =>
      unfaulty _ (.unexpected rfl given unnamed)
  rcases text "container_access_type" (by decide) with absent | ⟨accessText, hasAccess⟩
  · exact ⟨name, group, account, "private", known, hasName, hasGroup, hasAccount, .inr ⟨absent, rfl⟩⟩
  · exact ⟨name, group, account, accessText, known, hasName, hasGroup, hasAccount, .inl hasAccess⟩

theorem Declares.ofDocument_eq (declares : Declares fields name group account accessText) :
    ofDocument (.object fields) = ofTexts name group account accessText := by
  have hasName : fields.get? Field.name.key = some (.text name) := declares.name
  have hasGroup : fields.get? Field.group.key = some (.text group) := declares.group
  have hasAccount : fields.get? Field.account.key = some (.text account) := declares.account
  have hasAccess : (Shape.textOf fields Field.access.key).getD defaultAccess = accessText := by
    rcases declares.access with held | ⟨absent, rfl⟩
    · rw [Shape.textOf, show fields.get? Field.access.key = _ from held]
      rfl
    · rw [Shape.textOf, show fields.get? Field.access.key = _ from absent]
      rfl
  simp only [ofDocument, declares.faultless, hasAccess]
  simp only [Shape.textOf, hasName, hasGroup, hasAccount, Option.getD_some]

/-- The rules are looked at only where the shape has no fault. -/
theorem ofDocument_cases (document : Document) :
    (shape.faults document ≠ [] ∧
      ofDocument document = .error (.misshapen (shape.faults document))) ∨
    ∃ fields name group account accessText, document = .object fields ∧
      Declares fields name group account accessText ∧
      ofDocument document = ofTexts name group account accessText := by
  by_cases faultless : shape.faults document = []
  · cases document with
    | object fields =>
        obtain ⟨name, group, account, accessText, declares⟩ :=
          exists_declares_of_faultless faultless
        exact .inr ⟨fields, name, group, account, accessText, rfl, declares, declares.ofDocument_eq⟩
    | _ => cases faultless
  · refine .inl ⟨faultless, ?_⟩
    unfold ofDocument
    split
    · next found => exact absurd found faultless
    · rfl

theorem lawful_iff : Naming.violations name = [] ∧ (AccessType.ofText? accessText).isSome = true ↔
    Naming.IsName name ∧ AccessType.IsWord accessText :=
  and_congr Naming.violations_eq_nil_iff AccessType.isSome_ofText?_iff

theorem ofTexts_cases (name group account accessText : String) :
    (Naming.IsName name ∧ AccessType.IsWord accessText ∧
      ∃ config, ofTexts name group account accessText = .ok config ∧ config.name = name ∧
        config.group = group ∧ config.account = account ∧ config.accessText = accessText) ∨
    (¬(Naming.IsName name ∧ AccessType.IsWord accessText) ∧
      ofTexts name group account accessText = .error (.unlawful (violations name accessText))) := by
  rw [← and_assoc, ← lawful_iff, ofTexts]
  by_cases lawful : Naming.violations name = [] ∧ (AccessType.ofText? accessText).isSome = true
  · rw [dif_pos lawful]
    exact .inl ⟨lawful, _, rfl, rfl, rfl, rfl, rfl⟩
  · rw [dif_neg lawful]
    exact .inr ⟨lawful, rfl⟩

theorem violations_eq (name accessText : String) : violations name accessText =
    (if Naming.violations name = [] then [] else [("name", Naming.messages name "name")]) ++
    if (AccessType.ofText? accessText).isSome = true then []
    else [("container_access_type",
      [s!"container access type '{accessText}' is invalid, must be one of " ++
        "'private', 'blob', 'container'"])] := by
  rw [violations, AccessType.violation?_eq]
  congr 1
  · simp only [Naming.messages]
    cases Naming.violations name with
    | nil => rfl
    | cons first rest =>
        rw [if_neg (List.cons_ne_nil first rest)]
        rfl
  · by_cases known : (AccessType.ofText? accessText).isSome = true
    · rw [if_pos known, if_pos known]
    · rw [if_neg known, if_neg known]
      rfl

theorem violations_describe (name accessText : String) :
    (violations name accessText).Describe name accessText where
  field_iff field := by
    rw [violations_eq, ← Naming.violations_eq_nil_iff, ← AccessType.isSome_ofText?_iff]
    by_cases named : Naming.violations name = [] <;>
      by_cases known : (AccessType.ofText? accessText).isSome = true <;> simp [named, known]
  once := by
    rw [violations_eq]
    split <;> split <;> simp
  name {messages} about := by
    refine ⟨Naming.violations name, Naming.violations_sublist, Naming.mem_violations_iff, ?_⟩
    rw [violations_eq] at about
    rcases List.mem_append.mp about with own | other
    · split at own
      · cases own
      · exact congrArg Prod.snd (List.mem_singleton.mp own)
    · split at other <;> simp at other
  access {messages} about := by
    rw [violations_eq] at about
    rcases List.mem_append.mp about with other | own
    · split at other <;> simp at other
    · split at own
      · cases own
      · exact congrArg Prod.snd (List.mem_singleton.mp own)

variable {document : Document}

theorem ofDocument_eq_ok_iff {config : Config} : ofDocument document = .ok config ↔
    ∃ fields, document = .object fields ∧
      Declares fields config.name config.group config.account config.accessText := by
  constructor
  · intro accepted
    rcases ofDocument_cases document with ⟨_, refused⟩ |
      ⟨fields, name, group, account, accessText, rfl, declares, read⟩
    · cases refused.symm.trans accepted
    · rcases ofTexts_cases name group account accessText with
        ⟨_, _, found, made, rfl, rfl, rfl, rfl⟩ | ⟨_, refused⟩
      · cases accepted.symm.trans (read.trans made)
        exact ⟨fields, rfl, declares⟩
      · cases accepted.symm.trans (read.trans refused)
  · rintro ⟨fields, rfl, declares⟩
    rw [declares.ofDocument_eq, ofTexts, dif_pos ⟨config.name_lawful, config.access_known⟩]

theorem ofDocument_eq_misshapen_iff {faults : List Shape.Fault} :
    ofDocument document = .error (.misshapen faults) ↔
      shape.faults document ≠ [] ∧ faults = shape.faults document := by
  rcases ofDocument_cases document with ⟨faulty, refused⟩ |
    ⟨fields, name, group, account, accessText, rfl, declares, read⟩
  · simp [refused, faulty, eq_comm]
  · rcases ofTexts_cases name group account accessText with ⟨_, _, _, made, _⟩ | ⟨_, refused⟩
    · simp [read, made, declares.faultless]
    · simp [read, refused, declares.faultless]

theorem ofDocument_eq_unlawful_iff {found : Violations} :
    ofDocument document = .error (.unlawful found) ↔
      ∃ fields name group account accessText, document = .object fields ∧
        Declares fields name group account accessText ∧
        ¬(Naming.IsName name ∧ AccessType.IsWord accessText) ∧
        found = violations name accessText := by
  constructor
  · intro unlawful
    rcases ofDocument_cases document with ⟨_, refused⟩ |
      ⟨fields, name, group, account, accessText, rfl, declares, read⟩
    · cases refused.symm.trans unlawful
    · rcases ofTexts_cases name group account accessText with ⟨_, _, _, made, _⟩ | ⟨broken, refused⟩
      · cases unlawful.symm.trans (read.trans made)
      · cases unlawful.symm.trans (read.trans refused)
        exact ⟨fields, name, group, account, accessText, rfl, declares, broken, rfl⟩
  · rintro ⟨fields, name, group, account, accessText, rfl, declares, broken, rfl⟩
    rcases ofTexts_cases name group account accessText with ⟨named, known, _⟩ | ⟨_, refused⟩
    · exact absurd ⟨named, known⟩ broken
    · exact declares.ofDocument_eq.trans refused

/-- A refusal for rules is reported once, with the name that was given and all that is said of it.
Nothing is reported of any other document. -/
theorem reports_cases (document : Document) :
    (reports document = [] ∧ ∀ found, ofDocument document ≠ .error (.unlawful found)) ∨
    ∃ fields name group account accessText, document = .object fields ∧
      Declares fields name group account accessText ∧
      ofDocument document = .error (.unlawful (violations name accessText)) ∧
      reports document = [.refused name (violations name accessText)] := by
  rcases ofDocument_cases document with ⟨_, misshapen⟩ |
    ⟨fields, name, group, account, accessText, rfl, declares, read⟩
  · refine .inl ⟨?_, fun found unlawful => ?_⟩
    · simp only [reports, misshapen]
    · cases misshapen.symm.trans unlawful
  · rcases ofTexts_cases name group account accessText with ⟨_, _, config, made, _⟩ | ⟨_, refused⟩
    · have accepted := read.trans made
      refine .inl ⟨reports_of_ok accepted, fun found unlawful => ?_⟩
      cases accepted.symm.trans unlawful
    · have unlawful := read.trans refused
      have given : Shape.textOf fields Field.name.key = some name := by
        rw [Shape.textOf, show Document.Fields.get? fields Field.name.key = _ from declares.name]
      refine .inr ⟨fields, name, group, account, accessText, rfl, declares, unlawful, ?_⟩
      simp only [reports, unlawful, given, Option.getD_some]

/-- A document is a configuration if and only if it is an object of the known fields, all texts,
with a name and an access type of their form, and the configuration holds these texts as they are.
Otherwise its faults of shape are reported, each of them once, or all rules that it breaks where it
has no such fault. -/
theorem ofDocument_iff_grammar (document : Document) :
    (∀ name group account accessText,
      (∃ config, ofDocument document = .ok config ∧ config.name = name ∧ config.group = group ∧
          config.account = account ∧ config.accessText = accessText) ↔
        (∃ fields, document = .object fields ∧ Declares fields name group account accessText) ∧
          Naming.IsName name ∧ AccessType.IsWord accessText) ∧
    (∀ config, ofDocument document = .ok config → ∀ c ∈ config.accessText.toList, c.val < 0x80) ∧
    ((∃ faults, ofDocument document = .error (.misshapen faults)) ↔
      ∃ fault, shape.IsFault document fault) ∧
    (∀ faults, ofDocument document = .error (.misshapen faults) →
      (∀ fault, fault ∈ faults ↔ shape.IsFault document fault) ∧
      ∀ fields, document = .object fields → (fields.map Prod.fst).Nodup → faults.Nodup) ∧
    ((∃ violations, ofDocument document = .error (.unlawful violations)) ↔
      ∃ fields name group account accessText, document = .object fields ∧
        Declares fields name group account accessText ∧
        ¬(Naming.IsName name ∧ AccessType.IsWord accessText)) ∧
    ∀ fields name group account accessText, document = .object fields →
      Declares fields name group account accessText →
      ∀ violations, ofDocument document = .error (.unlawful violations) →
        violations.Describe name accessText := by
  refine ⟨fun name group account accessText => ⟨?_, ?_⟩, ?_, ⟨?_, ?_⟩, ?_, ⟨?_, ?_⟩, ?_⟩
  · rintro ⟨config, accepted, rfl, rfl, rfl, rfl⟩
    exact ⟨ofDocument_eq_ok_iff.mp accepted, lawful_iff.mp ⟨config.name_lawful, config.access_known⟩⟩
  · rintro ⟨given, lawful⟩
    obtain ⟨name_lawful, access_known⟩ := lawful_iff.mpr lawful
    exact ⟨⟨name, group, account, accessText, name_lawful, access_known⟩,
      ofDocument_eq_ok_iff.mpr given, rfl, rfl, rfl, rfl⟩
  · intro config _
    exact (AccessType.isSome_ofText?_iff.mp config.access_known).ascii
  · rintro ⟨faults, refused⟩
    obtain ⟨fault, reported⟩ :=
      List.exists_mem_of_ne_nil _ (ofDocument_eq_misshapen_iff.mp refused).1
    exact ⟨fault, Shape.mem_faults_iff.mp reported⟩
  · rintro ⟨fault, isFault⟩
    exact ⟨_, ofDocument_eq_misshapen_iff.mpr
      ⟨List.ne_nil_of_mem (Shape.mem_faults_iff.mpr isFault), rfl⟩⟩
  · intro faults refused
    obtain ⟨_, rfl⟩ := ofDocument_eq_misshapen_iff.mp refused
    refine ⟨fun fault => Shape.mem_faults_iff, ?_⟩
    rintro fields rfl single
    exact Shape.nodup_faults (by decide) single
  · rintro ⟨violations, refused⟩
    obtain ⟨fields, name, group, account, accessText, same, declares, broken, _⟩ :=
      ofDocument_eq_unlawful_iff.mp refused
    exact ⟨fields, name, group, account, accessText, same, declares, broken⟩
  · rintro ⟨fields, name, group, account, accessText, same, declares, broken⟩
    exact ⟨_, ofDocument_eq_unlawful_iff.mpr
      ⟨fields, name, group, account, accessText, same, declares, broken, rfl⟩⟩
  · rintro fields name group account accessText rfl declares found refused
    rcases ofTexts_cases name group account accessText with ⟨_, _, _, made, _⟩ | ⟨_, unlawful⟩
    · cases refused.symm.trans (declares.ofDocument_eq.trans made)
    · cases refused.symm.trans (declares.ofDocument_eq.trans unlawful)
      exact violations_describe name accessText

end Config

end Stowage
