import Mathlib.Data.List.Basic
import BlobRetrieval.Log.Filter

/-!
# Levels and filters of the log

The filter for a level shows the events of the program up to that level, whichever part of it
they come from. A level shows what any less verbose one shows, and `off` shows nothing. A filter
that is given goes before the level, unless it is malformed or splits a character.
-/

set_option autoImplicit false

namespace BlobRetrieval

namespace Level

theorem shows_iff {limit event : Level} : limit.shows event = true ↔ event.rank ≤ limit.rank := by
  rw [shows, decide_eq_true_iff]

theorem shows_of_le {limit other event : Level} (hle : limit.rank ≤ other.rank)
    (h : limit.shows event = true) : other.shows event = true := by
  rw [shows_iff] at *
  omega

end Level

theorem Event.rank_pos (e : Event) : 0 < e.level.rank := by
  cases e <;> simp [Event.level, Level.rank]

theorem Event.not_shows_off (e : Event) : Level.off.shows e.level = false := by
  have hpos := e.rank_pos
  rw [← Bool.not_eq_true, Level.shows_iff]
  simp only [Level.rank] at *
  omega

namespace Filter

theorem ofText_defaultText (level : Level) :
    ofText (defaultText level) = .ok (ofLevel level) := by
  cases level <;> rfl

theorem forLevel_eq_error {level : String} {fault : FilterFault} :
    forLevel level = .error fault ↔
      Level.ofText? level.toList = none ∧ fault = .unknownLevel := by
  rw [forLevel]
  cases Level.ofText? level.toList with
  | none => exact ⟨fun h => ⟨rfl, (Except.error.inj h).symm⟩, fun h => congrArg _ h.2.symm⟩
  | some level => exact ⟨nofun, nofun⟩

theorem choose_eq_crash {given : Option String} {level : String} :
    choose given level = .error .crash ↔
      ∃ text, given = some text ∧ ofText text = .error .split := by
  cases given with
  | none => simp [choose, forLevel_eq_error]
  | some text =>
    rw [choose, Option.map_some]
    cases hf : ofText text with
    | ok filter => simp [hf]
    | error fault => cases fault <;> simp [hf, forLevel_eq_error]

theorem choose_eq_unknownLevel {given : Option String} {level : String} :
    choose given level = .error .unknownLevel ↔
      (∀ text, given = some text → ofText text = .error .malformed) ∧
        Level.ofText? level.toList = none := by
  cases given with
  | none => simp [choose, forLevel_eq_error]
  | some text =>
    rw [choose, Option.map_some]
    cases hf : ofText text with
    | ok filter => simp [hf]
    | error fault => cases fault <;> simp [hf, forLevel_eq_error]

variable (level : Level) (e : Event)

theorem applies_everywhere : ({ level } : Directive).applies e = true := by
  simp [Directive.applies, Directive.isForEvents]

theorem applies_target (name : List Char) :
    ({ target := some name, level } : Directive).applies e = name.isPrefixOf e.target.toList := by
  simp [Directive.applies, Directive.isForEvents]

theorem outranks_everywhere (name : List Char) (limit : Level) :
    ({ target := some name, level } : Directive).outranks { level := limit } = true := by
  simp [Directive.outranks, Directive.targetSize]

theorem target_cases : e.target = "blob_sidecar_fetcher::commands::fetch" ∨
    e.target = "blob_sidecar_fetcher" ∨ e.target = "sidecar_client::client" := by
  cases e <;> simp [Event.target]

/-- Every event comes from one of the parts of the program. -/
theorem part_of_target : ∃ part ∈ targets, ∀ name ∈ targets,
    name.toList.isPrefixOf e.target.toList = decide (name = part) := by
  rcases target_cases e with h | h | h
  · rw [h]
    exact ⟨"blob_sidecar_fetcher", by decide, by decide⟩
  · rw [h]
    exact ⟨"blob_sidecar_fetcher", by decide, by decide⟩
  · rw [h]
    exact ⟨"sidecar_client", by decide, by decide⟩

/-- The directive for the part that an event comes from goes before the one for all events. -/
theorem deciding?_ofLevel :
    ∃ part : String, (ofLevel level).deciding? e = some { target := some part.toList, level } := by
  obtain ⟨part, hpart, hprefix⟩ := part_of_target e
  refine ⟨part, ?_⟩
  have hfilter : (targets.map fun target => ({ target := some target.toList, level } : Directive)
      ).filter (·.applies e) = [{ target := some part.toList, level }] := by
    simp only [List.filter_map, Function.comp_def, applies_target]
    rw [List.filter_congr hprefix]
    simp only [targets, List.mem_cons, List.not_mem_nil, or_false] at hpart
    rcases hpart with rfl | rfl <;> rfl
  rw [deciding?, ofLevel, List.filter_cons, applies_everywhere, if_pos rfl, hfilter]
  simp [outranks_everywhere]

theorem allows_ofLevel : (ofLevel level).allows e = level.shows e.level := by
  obtain ⟨part, hpart⟩ := deciding?_ofLevel level e
  have hfilter : ofLevel level =
      { level := .warn } :: targets.map fun target => { target := some target.toList, level } :=
    rfl
  rw [allows, hpart]
  simp [hfilter]

theorem filter_ofLevel (events : List Event) :
    events.filter (ofLevel level).allows = events.filter fun e => level.shows e.level :=
  List.filter_congr fun e _ => allows_ofLevel level e

end Filter

namespace Level

/-- The events that show at a level are among those that show at a more verbose one, in the
same order. -/
theorem sublist_shown {limit other : Level} (hle : limit.rank ≤ other.rank)
    (events : List Event) :
    (events.filter fun e => limit.shows e.level).Sublist
      (events.filter fun e => other.shows e.level) :=
  List.monotone_filter_right events fun _ => shows_of_le hle

theorem shown_off (events : List Event) :
    (events.filter fun e => off.shows e.level) = [] := by
  simp [Event.not_shows_off]

end Level

end BlobRetrieval
