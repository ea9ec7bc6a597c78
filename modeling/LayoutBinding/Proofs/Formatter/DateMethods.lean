import LayoutBinding.Evaluation.Method
import LayoutBinding.Proofs.Calendar.DayNumbers
import LayoutBinding.Proofs.Formatter.Runs

/-!
# Methods of dates and moments

A moment with a zone is moved to the configured zone before it is written, so that what its
methods give depends on nothing but the instant it denotes.  A moment without a zone and a date
are written as they are, whatever zone is configured.
-/

namespace LayoutBinding

namespace Formatter

theorem find?_key_of_mem {formatters : List Formatter} (distinct : (formatters.map key).Nodup)
    {formatter : Formatter} (member : formatter ∈ formatters) :
    formatters.find? (·.key = formatter.key) = some formatter := by
  induction formatters with
  | nil => cases member
  | cons first formatters ih =>
      obtain ⟨absent, distinct⟩ := List.nodup_cons.mp distinct
      rcases List.mem_cons.mp member with rfl | later
      · exact List.find?_cons_of_pos (decide_eq_true rfl)
      · have other : first.key ≠ formatter.key := by
          intro same
          exact absent (same ▸ List.mem_map_of_mem later)
        rw [List.find?_cons_of_neg (by simpa using other)]
        exact ih distinct later

end Formatter

namespace Registry

/-! ### Registries that keep the methods of dates -/

/-- What the built-in formatters of dates and moments are registered for. -/
def dateKeys : List (ValueType × String) :=
  [(.moment, "format"), (.moment, "iso"), (.date, "format"), (.date, "iso")]

/-- No other formatter is registered for dates and moments under the names of the built-in
ones. -/
def KeepsDates (calls : List Call) : Prop :=
  ∀ formatter ∈ registrations calls, formatter.key ∉ dateKeys

variable {calls : List Call}

/-- A built-in formatter of dates and moments is still what its key holds. -/
theorem get?_after_of_keepsDates (kept : KeepsDates calls) (formatter : Formatter)
    (builtin : formatter ∈ Formatter.builtins) (dates : formatter.key ∈ dateKeys) :
    Entries.get? (fresh.after calls).ensured.table formatter.key = some formatter := by
  have notRegistered :
      (registrations calls).reverse.find? (·.key = formatter.key) = none := by
    apply List.find?_eq_none.mpr
    intro other member same
    have same : other.key = formatter.key := of_decide_eq_true same
    exact kept other (List.mem_reverse.mp member) (same ▸ dates)
  rw [table_after, get?_tableOf, latest?, notRegistered, Option.none_or]
  exact Formatter.find?_key_of_mem (by decide) builtin

/-- The formatter for the type of a value itself is the one that is found. -/
theorem find?_of_head {registry : Registry} {value : Value} {type : ValueType}
    {others : List ValueType} {formatter : Formatter} {name : String}
    (head : value.lineage = type :: others)
    (found : Entries.get? registry.ensured.table (type, name) = some formatter) :
    registry.find? value name = some formatter := by
  rw [find?, FormatterTable.find?, head, List.findSome?_cons, found]

end Registry

namespace Value

/-! ### What the methods give -/

/-- The methods of a value write it in this way in every layout, and in this way in ISO 8601. -/
def IsWrittenAs (value : Value) (tools : Toolbox) (context : Context) (write : String → String)
    (iso : String) : Prop :=
  (∀ layout : Text,
      value.call tools context "format" [.text layout] = .ok (.string (write layout.content))) ∧
    value.call tools context "iso" [] = .ok (.string iso)

theorem check_layout (formatter : Formatter) (oneText : formatter.argumentTypes = [.text])
    (layout : Text) : formatter.check [.text layout] = .ok () := by
  have accepted : Formatter.accepts .text (.text layout) = true := by
    cases trusted : layout.trusted <;> simp [Formatter.accepts, isOf, lineage, isTruth, trusted]
  simp [Formatter.check, Formatter.arity, oneText, Formatter.firstRefused, accepted]

variable {calls : List Registry.Call} (kept : Registry.KeepsDates calls)
  (functions : FunctionTable) (context : Context)

include kept

theorem isWrittenAs_of_lineage {value : Value} {type : ValueType} {others : List ValueType}
    (head : value.lineage = type :: others) (dates : type = .moment ∨ type = .date)
    (plain : ∀ tools name arguments, value.call tools context name arguments =
      value.callFormatter tools context name arguments)
    {write : String → String} {iso : String}
    (formats : ∀ layout, Builtin.formatted context layout value = .ok (.string (write layout)))
    (isos : Builtin.isoText context value = .ok (.string iso)) :
    value.IsWrittenAs ⟨Registry.fresh.after calls, functions⟩ context write iso := by
  have formatFound := Registry.get?_after_of_keepsDates kept
    ⟨type, "format", .builtin .format, [.text], "Format with a reference-time layout"⟩
    (by rcases dates with rfl | rfl <;> simp [Formatter.builtins])
    (by rcases dates with rfl | rfl <;> decide)
  have isoFound := Registry.get?_after_of_keepsDates kept
    ⟨type, "iso", .builtin .iso, [], "ISO-8601 representation"⟩
    (by rcases dates with rfl | rfl <;> simp [Formatter.builtins])
    (by rcases dates with rfl | rfl <;> decide)
  constructor
  · intro layout
    rw [plain, callFormatter, Registry.find?_of_head head formatFound]
    dsimp only
    rw [Formatter.apply, check_layout _ rfl]
    exact formats layout.content
  · rw [plain, callFormatter, Registry.find?_of_head head isoFound]
    exact isos

/-- A moment is written after it has been moved to the configured zone. -/
theorem isWrittenAs_moment {m moved : Moment} (moves : Builtin.localized context m = .ok moved) :
    (moment m).IsWrittenAs ⟨Registry.fresh.after calls, functions⟩ context moved.format
      moved.iso := by
  refine isWrittenAs_of_lineage kept functions context rfl (.inl rfl) (fun _ _ _ => rfl)
    (fun layout => ?_) ?_
  · rw [Builtin.formatted, moves]
    rfl
  · rw [Builtin.isoText, moves]
    rfl

end Value

namespace Builtin

theorem localized_of_zones {context : Context} {m moved : Moment} {zone : Zone}
    (configured : context.zone? = some zone) (aware : m.zone.isSome)
    (moves : m.inZone? zone = some moved) : localized context m = .ok moved := by
  obtain ⟨own, given⟩ := Option.isSome_iff_exists.mp aware
  rw [localized, configured, given]
  dsimp only
  rw [moves]

theorem localized_of_zone_eq_none {context : Context} {m : Moment} (naive : m.zone = none) :
    localized context m = .ok m := by
  rw [localized, naive]
  cases context.zone? <;> rfl

end Builtin

namespace Registry

/-- As long as the methods of dates and moments are the built-in ones, two moments with zones
that denote the same instant are written alike, namely as the moment in the configured zone that
denotes it, if it lies in the years 1 to 9999 there and in universal time.  A moment without a
zone and a date are written as they are in every context. -/
theorem dates_written_by_instant {calls : List Call} (kept : KeepsDates calls)
    (functions : FunctionTable) :
    let tools : Toolbox := ⟨fresh.after calls, functions⟩
    (∀ (zone : Zone) (m other : Moment), m.zone.isSome → other.zone.isSome →
      m.instant = other.instant → Moment.InYears m.instant →
      Moment.InYears (m.instant + zone.offset) →
        ∃ moved : Moment, moved.instant = m.instant ∧ moved.zone = some zone ∧
          ∀ context : Context, context.zone? = some zone →
            (Value.moment m).IsWrittenAs tools context moved.format moved.iso ∧
              (Value.moment other).IsWrittenAs tools context moved.format moved.iso) ∧
      (∀ m : Moment, m.zone = none → ∀ context : Context,
        (Value.moment m).IsWrittenAs tools context m.format m.iso) ∧
      ∀ (d : Date) (context : Context),
        (Value.date d).IsWrittenAs tools context (Moment.ofDate d).format d.iso := by
  refine ⟨fun zone m other aware otherAware same universal inZone => ?_,
    fun m naive context => ?_, fun d context => ?_⟩
  · obtain ⟨moved, moves, instant, inside⟩ := Moment.exists_inZone? universal inZone
    have otherMoves : other.inZone? zone = some moved :=
      (Moment.inZone?_congr same zone).symm.trans moves
    refine ⟨moved, instant, inside, fun context configured => ⟨?_, ?_⟩⟩
    · exact Value.isWrittenAs_moment kept functions context
        (Builtin.localized_of_zones configured aware moves)
    · exact Value.isWrittenAs_moment kept functions context
        (Builtin.localized_of_zones configured otherAware otherMoves)
  · exact Value.isWrittenAs_moment kept functions context
      (Builtin.localized_of_zone_eq_none naive)
  · exact Value.isWrittenAs_of_lineage kept functions context rfl (.inr rfl) (fun _ _ _ => rfl)
      (fun _ => rfl) rfl

/-- An evening in universal time and the night two hours ahead of it, written in a zone between
them, while whole numbers have got a method of the name, too. -/
theorem dates_written_by_instant_midnight :
    let calls : List Call :=
      [.read (.names .date), .register ⟨.whole, "format", .builtin .iso, [], ""⟩]
    let tools : Toolbox := ⟨fresh.after calls, fun _ _ => .ok none⟩
    let zone : Zone := ⟨3600000000, none, by decide⟩
    let evening : Moment :=
      ⟨⟨2024, 3, 5, by decide⟩, ⟨23, 30, 0, 0, by decide⟩, some .universal⟩
    let night : Moment :=
      ⟨⟨2024, 3, 6, by decide⟩, ⟨1, 30, 0, 0, by decide⟩,
        some ⟨7200000000, none, by decide⟩⟩
    KeepsDates calls ∧ evening.instant = night.instant ∧ Moment.InYears evening.instant ∧
      Moment.InYears (evening.instant + zone.offset) ∧
      ∃ moved : Moment, moved.instant = evening.instant ∧ moved.zone = some zone ∧
        ∀ context : Context, context.zone? = some zone →
          (Value.moment evening).IsWrittenAs tools context moved.format moved.iso ∧
            (Value.moment night).IsWrittenAs tools context moved.format moved.iso := by
  intro calls tools zone evening night
  have kept : KeepsDates calls := by
    intro formatter member
    obtain rfl := List.mem_singleton.mp member
    decide
  have same : evening.instant = night.instant := by decide
  have universal : Moment.InYears evening.instant := ⟨by decide, by decide⟩
  have inZone : Moment.InYears (evening.instant + zone.offset) := ⟨by decide, by decide⟩
  exact ⟨kept, same, universal, inZone,
    (dates_written_by_instant kept _).1 zone evening night rfl rfl same universal inZone⟩

end Registry

end LayoutBinding
