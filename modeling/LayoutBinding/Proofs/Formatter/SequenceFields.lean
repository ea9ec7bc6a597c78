import LayoutBinding.Evaluation.Field
import LayoutBinding.Evaluation.Method
import LayoutBinding.Proofs.Formatter.Specificity

/-!
# The fields of sequences

A sequence has the fields `len`, `first` and `last` and methods of the same names.  The first and
the last item are taken from the registry in both ways, so they stay the same whatever is
registered.  The field `len` counts the items without asking the registry, and differs from the
method as soon as a formatter that does something else is found under that name.
-/

namespace LayoutBinding

namespace Registry

variable {registered : List Formatter} {value : Value} {name : String} {formatter : Formatter}

/-- What is found has been registered, or it is built in. -/
theorem mem_of_latest? {key : ValueType × String}
    (found : latest? registered key = some formatter) :
    formatter ∈ registered ∨ Formatter.builtins.find? (·.key = key) = some formatter := by
  rcases Option.or_eq_some_iff.mp found with last | ⟨-, builtin⟩
  · exact .inl (List.mem_reverse.mp (List.mem_of_find?_eq_some last))
  · exact .inr builtin

theorem isSome_latest? {key : ValueType × String} (registered : List Formatter)
    (builtin : (Formatter.builtins.find? (·.key = key)).isSome) :
    (latest? registered key).isSome := by
  rw [latest?, Option.isSome_or, builtin, Bool.or_true]

/-- A formatter is found for a type whose methods the value has. -/
theorem exists_latest?_of_find? {calls : List Call}
    (found : (fresh.after calls).find? value name = some formatter) :
    ∃ type, value.HasMethodsOf type ∧
      latest? (registrations calls) (type, name) = some formatter := by
  rw [find?_after] at found
  obtain ⟨type, tried, atType⟩ := List.exists_of_findSome?_eq_some found
  exact ⟨type, Value.mem_searched.mp tried, atType⟩

theorem exists_find?_of_latest? {calls : List Call} {type : ValueType}
    (methods : value.HasMethodsOf type)
    (known : (latest? (registrations calls) (type, name)).isSome) :
    ∃ formatter, (fresh.after calls).find? value name = some formatter := by
  rw [find?_after]
  exact Option.isSome_iff_exists.mp
    (List.findSome?_isSome_iff.mpr ⟨type, Value.mem_searched.mpr methods, known⟩)

end Registry

namespace Value

variable {value : Value} {items : List Value}

theorem hasMethodsOf_sequence (sequence : value.items? = some items) :
    value.HasMethodsOf .sequence := by
  cases value with
  | list items => exact .inr ⟨rfl, rfl, rfl⟩
  | tuple items => exact .inr ⟨rfl, rfl, rfl⟩
  | _ => cases sequence

theorem field_of_items? (sequence : value.items? = some items) (tools : Toolbox)
    (context : Context) (name : String) :
    value.field tools context name = itemField tools context value items name := by
  cases value <;> cases sequence <;> rfl

theorem call_of_items? (sequence : value.items? = some items) (tools : Toolbox)
    (context : Context) (name : String) (arguments : List Value) :
    value.call tools context name arguments =
      value.callFormatter tools context name arguments := by
  cases value <;> cases sequence <;> rfl

theorem field_len (sequence : value.items? = some items) (tools : Toolbox) (context : Context) :
    value.field tools context "len" = .ok (.whole items.length) := by
  rw [field_of_items? sequence]
  rfl

/-- A method of sequences that is built in is found after any calls. -/
theorem exists_formatter (sequence : value.items? = some items) (calls : List Registry.Call)
    (name : String)
    (builtin : (Formatter.builtins.find? (·.key = (ValueType.sequence, name))).isSome) :
    ∃ formatter, (Registry.fresh.after calls).find? value name = some formatter :=
  Registry.exists_find?_of_latest? (hasMethodsOf_sequence sequence)
    (Registry.isSome_latest? _ builtin)

theorem call_of_find? (sequence : value.items? = some items) {tools : Toolbox} {name : String}
    {formatter : Formatter} (found : tools.formatters.find? value name = some formatter)
    (context : Context) :
    value.call tools context name [] = formatter.apply context value [] := by
  rw [call_of_items? sequence, callFormatter, found]

/-- The first and the last item are found in the registry, both as fields and by methods. -/
theorem field_eq_call (sequence : value.items? = some items) (calls : List Registry.Call)
    (functions : FunctionTable) (context : Context) {name : String}
    (item : name = "first" ∨ name = "last") :
    value.field ⟨.after .fresh calls, functions⟩ context name =
      value.call ⟨.after .fresh calls, functions⟩ context name [] := by
  obtain ⟨formatter, found⟩ := exists_formatter sequence calls name
    (by rcases item with rfl | rfl <;> decide)
  have notCounted : name ≠ "len" := by rcases item with rfl | rfl <;> decide
  rw [call_of_find? sequence found, field_of_items? sequence, itemField, if_neg notCounted,
    if_pos item, found]

theorem apply_len (sequence : value.items? = some items) {formatter : Formatter}
    {type : ValueType}
    (builtin : Formatter.builtins.find? (·.key = (type, "len")) = some formatter)
    (context : Context) : formatter.apply context value [] = .ok (.whole items.length) := by
  have sole : ∀ formatter ∈ Formatter.builtins, formatter.name = "len" →
      formatter = ⟨.sequence, "len", .builtin .length, [], "Number of items"⟩ := by
    simp [Formatter.builtins]
  have key : formatter.key = (type, "len") := by
    have same := List.find?_some builtin
    exact of_decide_eq_true same
  rw [sole formatter (List.mem_of_find?_eq_some builtin) (congrArg Prod.snd key)]
  cases value <;> cases sequence <;> rfl

/-- Whatever is registered, the fields `first` and `last` of a list or a tuple give the same as
the methods, values and errors alike, and the field `len` gives the number of items.  All three
fields agree with the methods exactly if the formatter that is found for `len`, should it have
been registered, counts the items; so they agree as long as no formatter is registered under this
name for a type whose methods the sequence has. -/
theorem sequence_fields_agree_iff (calls : List Registry.Call) (functions : FunctionTable)
    (context : Context) {value : Value} {items : List Value}
    (sequence : value.items? = some items) :
    let registry := Registry.fresh.after calls
    let field := value.field ⟨registry, functions⟩ context
    let method := (value.call ⟨registry, functions⟩ context · [])
    let registered := Registry.registrations calls
    (∀ name ∈ ["first", "last"], field name = method name) ∧
      field "len" = .ok (.whole items.length) ∧
      ((∀ name ∈ ["len", "first", "last"], field name = method name) ↔
        ∀ formatter ∈ registered, registry.find? value "len" = some formatter →
          formatter.apply context value [] = .ok (.whole items.length)) ∧
      ((∀ formatter ∈ registered, formatter.name = "len" →
          ¬value.HasMethodsOf formatter.valueType) →
        ∀ name ∈ ["len", "first", "last"], field name = method name) := by
  intro registry field method registered
  have ends : ∀ name ∈ ["first", "last"], field name = method name :=
    fun name item => field_eq_call sequence calls functions context (by simpa using item)
  have counts : field "len" = .ok (.whole items.length) := field_len sequence _ context
  obtain ⟨formatter, found⟩ := exists_formatter sequence calls "len" (by decide)
  obtain ⟨type, methods, latest⟩ := Registry.exists_latest?_of_find? found
  have runs : method "len" = formatter.apply context value [] :=
    call_of_find? sequence found context
  -- What is found for `len` and not registered is the built-in method.
  have builtin (unregistered : formatter ∉ registered) :
      formatter.apply context value [] = .ok (.whole items.length) :=
    apply_len sequence ((Registry.mem_of_latest? latest).resolve_left unregistered) context
  have all : (∀ name ∈ ["len", "first", "last"], field name = method name) ↔
      formatter.apply context value [] = .ok (.whole items.length) := by
    rw [List.forall_mem_cons, and_iff_left ends, counts, runs, eq_comm]
  refine ⟨ends, counts, all.trans ⟨fun counted other _ again => ?_, fun counted => ?_⟩,
    fun unknown => all.mpr (builtin fun member => ?_)⟩
  · obtain rfl := Option.some.inj (found.symm.trans again)
    exact counted
  · by_cases member : formatter ∈ registered
    · exact counted formatter member found
    · exact builtin member
  · have key := Registry.key_of_latest? latest
    obtain rfl : formatter.valueType = type := congrArg Prod.fst key
    exact unknown formatter member (congrArg Prod.snd key) methods

/-- A formatter for all values under the name of a method of sequences, with an argument. -/
def nthOfAll : Formatter :=
  ⟨.any, "first", .custom "args" fun _ _ arguments => .ok (.list arguments), [.whole], ""⟩

/-- A formatter with an argument that is found for `first` refuses the field as it refuses the
method without arguments; the items are still counted in both ways. -/
theorem sequence_fields_agree_nthOfAll :
    let pair : Value := .tuple [.string "sql", .string "bigquery"]
    let tools : Toolbox := ⟨.after .fresh [.register nthOfAll], fun _ _ => .ok none⟩
    let context : Context := ⟨[], none, .default⟩
    pair.items? = some [.string "sql", .string "bigquery"] ∧
      (∀ name ∈ ["len", "first", "last"],
        pair.field tools context name = pair.call tools context name []) ∧
      pair.field tools context "len" = .ok (.whole 2) ∧
      pair.field tools context "first" = .refuse (.argumentCount "first" 1 0) := by
  intro pair tools context
  have sequence : pair.items? = some [.string "sql", .string "bigquery"] := rfl
  obtain ⟨-, counts, -, agree⟩ := sequence_fields_agree_iff [.register nthOfAll]
    (fun _ _ => .ok none) context sequence
  refine ⟨sequence, agree ?_, counts, rfl⟩
  intro formatter member named
  obtain rfl : formatter = nthOfAll := List.mem_singleton.mp member
  exact absurd named (by decide)

/-- A formatter for lists that takes the name of a built-in method. -/
def labelOfLists : Formatter :=
  ⟨.list, "len", .custom "label" fun _ value _ => .ok (.string value.label), [], ""⟩

/-- The field still counts the items of a list when the method is another one. -/
theorem field_len_ne_method :
    let tools : Toolbox := ⟨.after .fresh [.register labelOfLists], fun _ _ => .ok none⟩
    let context : Context := ⟨[], none, .default⟩
    (Value.list [.whole 1, .whole 2]).field tools context "len" = .ok (.whole 2) ∧
      (Value.list [.whole 1, .whole 2]).call tools context "len" [] =
        .ok (.string "sequence") :=
  ⟨rfl, rfl⟩

end Value

end LayoutBinding
