import LayoutBinding.Formatter.Registry
import LayoutBinding.Value.Order
import Mathlib.Data.List.Induction
import Mathlib.Data.List.Nodup

/-!
# Runs of the registry of formatters

A registry is asked for formatters while others are registered, in any order.  What it
answers is told from the registrations alone: it does not matter when the built-in
formatters were put in, or what was asked before.
-/

namespace LayoutBinding

namespace Entries

variable {κ α : Type} [DecidableEq κ]

theorem nodup_keys_put {entries : List (κ × α)} (distinct : (keys entries).Nodup) (key : κ)
    (value : α) : (keys (put entries key value)).Nodup := by
  rw [keys_put]
  split
  next => exact distinct
  next absent => exact List.concat_eq_append ▸ distinct.concat absent

/-- The values of some of the keys are found one after the other. -/
theorem map_snd_filter {entries : List (κ × α)} (distinct : (keys entries).Nodup)
    (p : κ → Bool) :
    (entries.filter fun entry => p entry.1).map Prod.snd =
      ((keys entries).filter p).filterMap (get? entries) := by
  rw [keys, List.filter_map, List.filterMap_map, ← List.filterMap_eq_map]
  apply List.filterMap_congr
  intro entry member
  exact (get?_of_mem distinct (List.mem_of_mem_filter member)).symm

end Entries

namespace Formatter

def key (formatter : Formatter) : ValueType × String :=
  (formatter.valueType, formatter.name)

/-- Among formatters for different keys it does not matter where the search begins. -/
theorem find?_reverse {formatters : List Formatter}
    (distinct : (formatters.map key).Nodup) (wanted : ValueType × String) :
    formatters.reverse.find? (·.key = wanted) = formatters.find? (·.key = wanted) := by
  induction formatters with
  | nil => rfl
  | cons formatter formatters ih =>
      obtain ⟨absent, distinct⟩ := List.nodup_cons.mp distinct
      rw [List.reverse_cons, List.find?_append, ih distinct]
      by_cases same : formatter.key = wanted
      · have nothing : formatters.find? (·.key = wanted) = none := by
          apply List.find?_eq_none.mpr
          intro other member found
          have found : other.key = wanted := of_decide_eq_true found
          exact absent (List.mem_map.mpr ⟨other, member, found.trans same.symm⟩)
        simp [nothing, same]
      · simp [same]

end Formatter

namespace FormatterTable

theorem storeAll_append (table : FormatterTable) (first second : List Formatter) :
    table.storeAll (first ++ second) = (table.storeAll first).storeAll second :=
  List.foldl_append

theorem storeAll_concat (table : FormatterTable) (formatters : List Formatter)
    (formatter : Formatter) :
    table.storeAll (formatters ++ [formatter]) =
      Entries.put (table.storeAll formatters) formatter.key formatter :=
  storeAll_append table formatters [formatter]

theorem get?_storeAll (formatters : List Formatter) (key : ValueType × String) :
    Entries.get? (storeAll [] formatters) key = formatters.reverse.find? (·.key = key) := by
  induction formatters using List.reverseRecOn with
  | nil => rfl
  | append_singleton formatters formatter ih =>
      rw [storeAll_concat, List.reverse_append, List.reverse_singleton, List.singleton_append]
      by_cases same : formatter.key = key
      · subst same
        simp
      · rw [Entries.get?_put_of_ne _ _ same, ih, List.find?_cons_of_neg (by simpa using same)]

theorem keys_storeAll (formatters : List Formatter) :
    Entries.keys (storeAll [] formatters) = (formatters.map Formatter.key).eraseDups := by
  induction formatters using List.reverseRecOn with
  | nil => rfl
  | append_singleton formatters formatter ih =>
      rw [storeAll_concat, Entries.keys_put, ih, List.map_append, List.eraseDups_append]
      by_cases known : formatter.key ∈ formatters.map Formatter.key
      · have nothing : [formatter.key].removeAll (formatters.map Formatter.key) = [] :=
          List.filter_cons_of_neg (by simpa using known)
        rw [if_pos (List.mem_eraseDups.mpr known), List.map_singleton, nothing]
        exact (List.append_nil _).symm
      · have kept : [formatter.key].removeAll (formatters.map Formatter.key) =
            [formatter.key] :=
          List.filter_cons_of_pos (by simpa using known)
        rw [if_neg (mt List.mem_eraseDups.mp known), List.map_singleton, kept]
        rfl

theorem nodup_keys_storeAll (formatters : List Formatter) :
    (Entries.keys (storeAll [] formatters)).Nodup := by
  induction formatters using List.reverseRecOn with
  | nil => exact List.nodup_nil
  | append_singleton formatters formatter ih =>
      rw [storeAll_concat]
      exact Entries.nodup_keys_put ih _ _

end FormatterTable

namespace Registry

/-! ### Calls -/

/-- A question to the registry. -/
inductive Read where
  | find (value : Value) (name : String)
  | list (type : Option ValueType)
  | names (type : ValueType)

/-- What is done with the registry. -/
inductive Call where
  | register (formatter : Formatter)
  | read (read : Read)

inductive Answer where
  | registered (formatter : Formatter)
  | found (formatter : Option Formatter)
  | listed (formatters : List Formatter)
  | named (names : List String)

/-- The answer to a question. -/
def answer (registry : Registry) : Read → Answer
  | .find value name => .found (registry.find? value name)
  | .list type => .listed (registry.list type)
  | .names type => .named (registry.names type)

def respond (registry : Registry) : Call → Answer × Registry
  | .register formatter => (.registered formatter, registry.register formatter)
  | .read read => (registry.answer read, registry.ensured)

def after (registry : Registry) (calls : List Call) : Registry :=
  calls.foldl (fun registry call => (registry.respond call).2) registry

def answers (registry : Registry) : List Call → List Answer
  | [] => []
  | call :: calls => (registry.respond call).1 :: (registry.respond call).2.answers calls

/-! ### Answers from registrations alone -/

/-- The formatters that calls register, in order. -/
def registrations (calls : List Call) : List Formatter :=
  calls.filterMap fun
    | .register formatter => some formatter
    | .read _ => none

theorem registrations_append (first second : List Call) :
    registrations (first ++ second) = registrations first ++ registrations second :=
  List.filterMap_append

/-- The last formatter that is registered for a key, or else the built-in one. -/
def latest? (registered : List Formatter) (key : ValueType × String) : Option Formatter :=
  (registered.reverse.find? (·.key = key)).or (Formatter.builtins.find? (·.key = key))

/-- The keys of the built-in formatters, and then the others in the order in which they are
first registered. -/
def keyOrder (registered : List Formatter) : List (ValueType × String) :=
  Formatter.builtins.map Formatter.key ++
    ((registered.map Formatter.key).removeAll (Formatter.builtins.map Formatter.key)).eraseDups

/-- The answer to a question after registrations. -/
def expected (registered : List Formatter) : Read → Answer
  | .find value name =>
      .found ((value.lineage.findSome? fun type => latest? registered (type, name)).or
        (if value.isOf .sequence && !value.isOf .text then
          latest? registered (.sequence, name)
        else
          none))
  | .list type =>
      .listed (((keyOrder registered).filter fun key => type.all (· = key.1)).filterMap
        (latest? registered))
  | .names type =>
      .named ((((keyOrder registered).filter fun key => type = key.1).map Prod.snd).mergeSort
        fun first second => !(second < first))

/-- The names of formatters are in the order that values have. -/
theorem sorted?_names (registry : Registry) (type : ValueType) :
    Value.sorted? (((registry.list (some type)).map Formatter.name).map Value.string) =
      some ((registry.names type).map Value.string) :=
  Value.sorted?_map_string _

/-! ### What a run leaves behind -/

/-- The table after registrations. -/
def tableOf (registered : List Formatter) : FormatterTable :=
  .storeAll [] (Formatter.builtins ++ registered)

theorem get?_tableOf (registered : List Formatter) :
    Entries.get? (tableOf registered) = latest? registered := by
  have distinct : (Formatter.builtins.map Formatter.key).Nodup := by decide
  funext key
  rw [tableOf, FormatterTable.get?_storeAll, List.reverse_append, List.find?_append,
    Formatter.find?_reverse distinct, latest?]

theorem keys_tableOf (registered : List Formatter) :
    Entries.keys (tableOf registered) = keyOrder registered := by
  have distinct : (Formatter.builtins.map Formatter.key).eraseDups =
      Formatter.builtins.map Formatter.key := by
    decide
  rw [tableOf, FormatterTable.keys_storeAll, List.map_append, List.eraseDups_append, distinct,
    keyOrder]

theorem nodup_keys_tableOf (registered : List Formatter) :
    (Entries.keys (tableOf registered)).Nodup :=
  FormatterTable.nodup_keys_storeAll _

theorem key_of_mem_tableOf {registered : List Formatter}
    {entry : (ValueType × String) × Formatter} (member : entry ∈ tableOf registered) :
    entry.2.key = entry.1 := by
  have found := Entries.get?_of_mem (nodup_keys_tableOf registered) member
  rw [get?_tableOf] at found
  rcases Option.or_eq_some_iff.mp found with last | ⟨-, builtin⟩
  · have same := List.find?_some last
    exact of_decide_eq_true same
  · have same := List.find?_some builtin
    exact of_decide_eq_true same

@[simp]
theorem loaded_ensured (registry : Registry) : registry.ensured.loaded = true := by
  rw [ensured]
  split
  next loaded => exact loaded
  next => rfl

theorem ensured_of_loaded {registry : Registry} (loaded : registry.loaded = true) :
    registry.ensured = registry :=
  if_pos loaded

/-- A call leaves the table with what it registers put in, whether the built-in formatters
were there before or not. -/
theorem respond_snd (registry : Registry) (call : Call) :
    (registry.respond call).2 =
      ⟨true, registry.ensured.table.storeAll (registrations [call])⟩ := by
  have loaded := loaded_ensured registry
  cases call with
  | register formatter => exact congrArg (Registry.mk · _) loaded
  | read read => exact congrArg (Registry.mk · _) loaded

theorem ensured_after (registry : Registry) (calls : List Call) :
    (registry.after calls).ensured =
      ⟨true, registry.ensured.table.storeAll (registrations calls)⟩ := by
  induction calls generalizing registry with
  | nil => exact congrArg (Registry.mk · _) (loaded_ensured registry)
  | cons call calls ih =>
      change ((registry.respond call).2.after calls).ensured = _
      rw [ih, respond_snd, ensured_of_loaded rfl, ← FormatterTable.storeAll_append,
        ← registrations_append, List.singleton_append]

/-- After calls the table is what the registrations among them make of it. -/
theorem table_after (calls : List Call) :
    (fresh.after calls).ensured.table = tableOf (registrations calls) := by
  rw [ensured_after, tableOf, FormatterTable.storeAll_append]
  rfl

theorem loaded_after (calls : List Call) :
    (fresh.after calls).loaded = !calls.isEmpty := by
  induction calls using List.reverseRecOn with
  | nil => rfl
  | append_singleton calls call _ =>
      rw [after, List.foldl_append, List.foldl_cons, List.foldl_nil, respond_snd]
      simp

theorem answers_append (registry : Registry) (first second : List Call) :
    registry.answers (first ++ second) =
      registry.answers first ++ (registry.after first).answers second := by
  induction first generalizing registry with
  | nil => rfl
  | cons call first ih => exact congrArg (_ :: ·) (ih _)

/-- Putting the built-in formatters in changes no answer. -/
theorem answers_ensured (registry : Registry) (calls : List Call) :
    registry.ensured.answers calls = registry.answers calls := by
  have same (call : Call) : registry.ensured.respond call = registry.respond call := by
    cases call with
    | register formatter => simp [respond, register]
    | read read =>
        cases read <;> simp [respond, answer, find?, list, names]
  cases calls with
  | nil => rfl
  | cons call calls => rw [answers, answers, same]

/-! ### Answers -/

variable {registry : Registry} {registered : List Formatter}

theorem list_eq (holds : registry.ensured.table = tableOf registered)
    (type : Option ValueType) :
    registry.list type =
      ((keyOrder registered).filter fun key => type.all (· = key.1)).filterMap
        (latest? registered) := by
  rw [list, holds, FormatterTable.list, ← keys_tableOf, ← get?_tableOf]
  exact Entries.map_snd_filter (nodup_keys_tableOf registered) fun key => type.all (· = key.1)

theorem map_key_list (holds : registry.ensured.table = tableOf registered)
    (type : Option ValueType) :
    (registry.list type).map Formatter.key =
      (keyOrder registered).filter fun key => type.all (· = key.1) := by
  rw [list, holds, FormatterTable.list, ← keys_tableOf, List.map_map, Entries.keys,
    List.filter_map]
  apply List.map_congr_left
  intro entry member
  exact key_of_mem_tableOf (List.mem_of_mem_filter member)

/-- A question is answered from the registrations alone. -/
theorem answer_eq (holds : registry.ensured.table = tableOf registered) (read : Read) :
    registry.answer read = expected registered read := by
  cases read with
  | find value name =>
      rw [answer, expected, find?, holds, FormatterTable.find?, get?_tableOf]
      cases value.lineage.findSome? fun type => latest? registered (type, name) <;> rfl
  | list type => exact congrArg Answer.listed (list_eq holds type)
  | names type =>
      have named : (registry.list (some type)).map Formatter.name =
          ((registry.list (some type)).map Formatter.key).map Prod.snd := by
        rw [List.map_map]
        rfl
      rw [answer, names, named, map_key_list holds, expected]
      rfl

/-- After any calls each key holds the formatter that was last registered for it, or the
built-in one if there was none.  Each key is listed once: those of the built-in formatters,
and then the others in the order in which they were first registered.  All answers are told
from the registrations, and no question changes a later answer. -/
theorem run_eq_registrations (calls : List Call) :
    let registered := registrations calls
    let registry := fresh.after calls
    (registry.loaded = !calls.isEmpty) ∧
      (∀ key, Entries.get? registry.ensured.table key = latest? registered key) ∧
      Entries.keys registry.ensured.table = keyOrder registered ∧
      (registry.list none).map Formatter.key = keyOrder registered ∧
      (keyOrder registered).Nodup ∧
      (∀ formatter, Entries.keys (registry.register formatter).table =
        if formatter.key ∈ keyOrder registered then
          keyOrder registered
        else
          keyOrder registered ++ [formatter.key]) ∧
      (∀ later, fresh.answers (calls ++ later) =
        fresh.answers calls ++ registry.answers later) ∧
      ∀ read later, fresh.answers (calls ++ .read read :: later) =
        fresh.answers calls ++ expected registered read :: registry.answers later := by
  have holds := table_after calls
  have distinct := nodup_keys_tableOf (registrations calls)
  rw [keys_tableOf] at distinct
  refine ⟨loaded_after calls, fun key => ?_, ?_, ?_, distinct, fun formatter => ?_,
    answers_append fresh calls, fun read later => ?_⟩
  · rw [holds, get?_tableOf]
  · rw [holds, keys_tableOf]
  · rw [map_key_list holds]
    exact List.filter_eq_self.mpr fun _ _ => rfl
  · change Entries.keys (Entries.put _ formatter.key formatter) = _
    rw [Entries.keys_put, holds, keys_tableOf]
    by_cases known : formatter.key ∈ keyOrder (registrations calls)
    · rw [if_pos known, if_pos known]
    · rw [if_neg known, if_neg known]
  · rw [answers_append, answers, respond, answers_ensured, answer_eq holds]

-- A built-in formatter that is registered anew keeps its place.
example (shout upper : Operation) :
    (keyOrder [⟨.text, "shout", shout, [], ""⟩, ⟨.text, "upper", upper, [], ""⟩]).drop 12 =
      [(.sequence, "join"), (.text, "shout")] := by
  rfl

end Registry

end LayoutBinding
