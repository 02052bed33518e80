import ClusterGraph.Proofs.Rules.CompiledRules

namespace ClusterGraph

/-! The form of derived descriptors. A rule makes one descriptor of each match that tells a target,
in the order of its matches, and a descriptor tells its target either by uid or by name. -/

theorem forall₂_filterMap {α β : Type} {f : α → Option β} {selected : α → Bool}
    {R : α → β → Prop} (values : List α) (same : ∀ value, (f value).isSome = selected value)
    (related : ∀ value result, f value = some result → R value result) :
    List.Forall₂ R (values.filter selected) (values.filterMap f) := by
  induction values with
  | nil => exact .nil
  | cons value rest ih =>
      cases found : f value with
      | none =>
          have passed : selected value = false := by rw [← same, found, Option.isSome_none]
          rw [List.filter_cons_of_neg (by simp [passed]), List.filterMap_cons_none found]
          exact ih
      | some result =>
          have taken : selected value = true := by rw [← same, found, Option.isSome_some]
          rw [List.filter_cons_of_pos taken, List.filterMap_cons_some found]
          exact .cons (related value result found) ih

namespace NumberLayout

variable {layout : NumberLayout}

theorem digitsText_ne_empty (digits : List Char) (point : Int) :
    layout.digitsText digits point ≠ "" := by
  unfold digitsText
  split
  · split <;> simp
  · split <;> simp

theorem text_ne_empty (infinity : layout.infinity ≠ "") (notANumber : layout.notANumber ≠ "")
    (number : Binary64) : layout.text number ≠ "" := by
  cases number with
  | nan => exact notANumber
  | infinite negative => simp [text, infinity]
  | finite negative significand exponent =>
      by_cases zero : significand = 0
      · simp [text, zero]
      · simp [text, zero, digitsText_ne_empty]

end NumberLayout

theorem repr_ne_empty (number : Int) : number.repr ≠ "" := by
  cases number with
  | ofNat magnitude =>
      change String.ofList (Nat.toDigits 10 magnitude) ≠ ""
      simp [Nat.toDigits_ne_nil]
  | negSucc magnitude => simp [Int.repr]

namespace Json

/-- A string that is not empty. -/
def isText : Json → Bool
  | .str text => !text.isEmpty
  | _ => false

theorem display_ne_empty {value : Json} (scalar : value.isScalar = true)
    (filled : value ≠ .str "") : value.display ≠ "" := by
  cases value with
  | null | arr _ | obj _ => cases scalar
  | bool truth => cases truth <;> decide
  | int number =>
      simpa [display, document, Document.display, Document.literal] using repr_ne_empty number
  | float number =>
      simpa [display, document, Document.display, Document.literal] using
        NumberLayout.text_ne_empty (by decide) (by decide) number
  | str text => simpa using filled

end Json

/-- A match that tells a target: a scalar other than the empty string, or for references an object
with kind and name. -/
def Rule.tells (rule : Rule) (value : Json) : Bool :=
  if rule.byReference then (value.get? "kind").any Json.isText && (value.get? "name").any Json.isText
  else value.isScalar && !(value matches .str "")

/-- A descriptor made of a match of a rule. It tells the target in one way, by uid or by name. -/
structure Rule.Describes (rule : Rule) (path : Path) (value : Json) (descriptor : Descriptor) :
    Prop where
  relationship : descriptor.relationship = rule.relationship
  oneWay : descriptor.targetUid = "" ↔ descriptor.targetName ≠ ""
  byUid : descriptor.targetUid ≠ "" ↔
    rule.byReference = false ∧ path.segments.getLast? = some (.key "uid")
  scalar : rule.byReference = false → descriptor.targetType = rule.targetType ∧
    (if descriptor.byUid then descriptor.targetUid else descriptor.targetName) = value.display
  reference : rule.byReference = true → value.get? "kind" = some (.str descriptor.targetType) ∧
    value.get? "name" = some (.str descriptor.targetName)

theorem Path.lastKey_eq_iff (path : Path) {name : String} (filled : name ≠ "") :
    path.lastKey = name ↔ path.segments.getLast? = some (.key name) := by
  unfold lastKey
  cases path.segments.getLast? with
  | none => simp [filled.symm]
  | some last => cases last <;> simp [filled.symm]

namespace CompiledTable

variable {table : RuleTable} {rules : CompiledTable} {compiled : CompiledRule} {value : Json}
  {descriptor : Descriptor} {targetNamespace source : String}

theorem tells_path (isPath : compiled.rule.byReference = false) :
    compiled.rule.tells value = true ↔ value.isScalar = true ∧ value.display ≠ "" := by
  have written : compiled.rule.tells value = true ↔
      value.isScalar = true ∧ value ≠ .str "" := by
    simp only [Rule.tells, isPath, Bool.false_eq_true, if_false, Bool.and_eq_true]
    refine and_congr_right fun _ => ?_
    split <;> simp_all
  rw [written]
  constructor
  · rintro ⟨scalar, filled⟩
    exact ⟨scalar, Json.display_ne_empty scalar filled⟩
  · rintro ⟨scalar, shown⟩
    refine ⟨scalar, ?_⟩
    rintro rfl
    exact shown (Json.display_str "")

theorem any_isText {key : String} :
    (value.get? key).any Json.isText = true ↔ stringAt value key ≠ "" := by
  unfold stringAt
  cases value.get? key with
  | none => simp [Json.textOr]
  | some found => cases found <;> simp [Json.isText, Json.textOr]

theorem tells_reference (isReference : compiled.rule.byReference = true) :
    compiled.rule.tells value = true ↔
      stringAt value "kind" ≠ "" ∧ stringAt value "name" ≠ "" := by
  simp only [Rule.tells, isReference, if_true, Bool.and_eq_true, any_isText]

theorem isSome_ofScalar? (isPath : compiled.rule.byReference = false) :
    (ofScalar? compiled targetNamespace value).isSome = compiled.rule.tells value := by
  rw [Bool.eq_iff_iff, tells_path isPath]
  simp only [ofScalar?]
  split
  · rename_i silent
    rcases Bool.or_eq_true_iff.mp silent with noScalar | empty <;> simp_all
  · split <;> simp_all

theorem isSome_ofReference? (isReference : compiled.rule.byReference = true) :
    (ofReference? compiled source value).isSome = compiled.rule.tells value := by
  rw [Bool.eq_iff_iff, tells_reference isReference]
  simp only [ofReference?]
  split
  · rename_i silent
    rcases Bool.or_eq_true_iff.mp silent with noKind | noName <;> simp_all
  · simp_all

theorem describes_ofScalar? (isPath : compiled.rule.byReference = false)
    (derived : ofScalar? compiled targetNamespace value = some descriptor) :
    compiled.rule.Describes compiled.path value descriptor := by
  obtain ⟨filled, rfl⟩ := ofScalar?_eq_some derived
  have endsInUid : compiled.path.lastKey = "uid" ↔ _ := compiled.path.lastKey_eq_iff (by decide)
  by_cases byUid : compiled.path.lastKey = "uid"
  · constructor <;> simp [byUid, endsInUid.mp byUid, filled, isPath, Descriptor.byUid]
  · constructor <;> simp [byUid, mt endsInUid.mpr byUid, filled, isPath, Descriptor.byUid]

theorem describes_ofReference? (isReference : compiled.rule.byReference = true)
    (derived : ofReference? compiled source value = some descriptor) :
    compiled.rule.Describes compiled.path value descriptor := by
  obtain ⟨kind, name, rfl⟩ := ofReference?_eq_some derived
  constructor
  case reference => exact fun _ => ⟨get?_of_stringAt kind, get?_of_stringAt name⟩
  all_goals simp [name, isReference]

theorem ofRule_describes (rules : CompiledTable) (compiled : CompiledRule) (tree : Json) :
    List.Forall₂ (compiled.rule.Describes compiled.path)
      ((compiled.path.find tree).filter compiled.rule.tells) (rules.ofRule compiled tree) := by
  cases byReference : compiled.rule.byReference with
  | true =>
      simp only [ofRule, byReference, if_true]
      exact forall₂_filterMap _ (fun _ => isSome_ofReference? byReference)
        fun _ _ => describes_ofReference? byReference
  | false =>
      simp only [ofRule, byReference, Bool.false_eq_true, if_false]
      exact forall₂_filterMap _ (fun _ => isSome_ofScalar? byReference)
        fun _ _ => describes_ofScalar? byReference

/-- The descriptors of an object are those of its rules, one rule after the other: one descriptor
for each match that tells a target. -/
theorem derive_describes (read : ofTable table = .ok rules) (tree : Json) :
    ∃ parts : List (List Descriptor), rules.derive tree = parts.flatten ∧
      List.Forall₂
        (fun rule part => ∃ path, Path.ofText rule.path = .ok path ∧
          List.Forall₂ (rule.Describes path) ((path.find tree).filter rule.tells) part)
        (table.defaults ++ (table.byKind.lookup (.ofObject tree)).getD []) parts := by
  have compiles := forall₂_of_mapM (ofTable_eq_ok read (.ofObject tree)).1
  refine ⟨(rules.rulesFor (.ofObject tree)).map (rules.ofRule · tree), List.flatMap_def, ?_⟩
  apply List.forall₂_map_right_iff.mpr
  apply compiles.imp
  intro rule compiled isCompiled
  obtain ⟨rfl, isPath⟩ := compileRule_eq_ok.mp isCompiled
  exact ⟨compiled.path, isPath, ofRule_describes rules compiled tree⟩

/-- A binding with owners that are no texts, and with subjects that have no name or are none. -/
def looseBinding : Json :=
  let owner (uid : Json) : Json := .obj [("uid", uid)]
  let subject (kind name : String) : Json := .obj [("kind", .str kind), ("name", .str name)]
  .obj
    [("apiVersion", .str "rbac.authorization.k8s.io/v1"), ("kind", .str "RoleBinding"),
     ("metadata", .obj
       [("namespace", .str "shop"),
        ("ownerReferences", .arr [owner (.int 7), owner (.str ""), owner .null,
          owner (.bool true)])]),
     ("roleRef", .obj [("name", .str "view")]),
     ("subjects", .arr [subject "User" "alice", subject "Group" "", .str "bob"])]

theorem derive_describes_looseBinding :
    ofTable .builtin = .ok builtin ∧
      builtin.derive looseBinding =
        [{ relationship := "owned-by", targetUid := "7", targetNamespace := "shop" },
         { relationship := "owned-by", targetUid := "True", targetNamespace := "shop" },
         { relationship := "belongs-to", targetType := "v1/Namespace", targetName := "shop" },
         { relationship := "bind-role", targetType := "rbac.authorization.k8s.io/v1/Role"
           targetName := "view", targetNamespace := "shop" },
         { relationship := "assign-to", targetType := "User", targetName := "alice"
           targetNamespace := "shop" }] ∧
      ∃ parts : List (List Descriptor), builtin.derive looseBinding = parts.flatten ∧
        List.Forall₂
          (fun rule part => ∃ path, Path.ofText rule.path = .ok path ∧
            List.Forall₂ (rule.Describes path) ((path.find looseBinding).filter rule.tells) part)
          (RuleTable.builtin.defaults ++
            (RuleTable.builtin.byKind.lookup (.ofObject looseBinding)).getD []) parts := by
  refine ⟨ofTable_builtin, ?_, derive_describes ofTable_builtin looseBinding⟩
  apply derive_eq_of_evaluated ofTable_builtin
  decide +kernel

end CompiledTable

end ClusterGraph
