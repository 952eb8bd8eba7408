import Mathlib.Data.List.Induction
import Resilience.Proofs.Retry.Ending
import Resilience.Settings.Basic

/-!
# Edited policies

Policies are edited in any order (`Policies.editAll`). The policy of a channel is made of the
defaults and the last override for the channel, and a channel that was ever forbidden is limited to
one attempt (`Policies.edited`). What the settings make of policies is a sequence of such edits
(`RetrySettings.policies_eq`).
-/

namespace Resilience

namespace Policies

inductive Edit where
  | set (channel : String) (o : Policy.Override)
  | forbid (channel : String)

namespace Edit

def channel : Edit → String
  | set channel _ | forbid channel => channel

/-- What is set for a channel. -/
def override? (channel : String) : Edit → Option Policy.Override
  | set other o => if other = channel then some o else none
  | forbid _ => none

end Edit

def edit (ps : Policies) : Edit → Policies
  | .set channel o => ps.set channel o
  | .forbid channel => ps.forbid channel

def editAll (ps : Policies) (edits : List Edit) : Policies := edits.foldl edit ps

/-- Policies to begin with: the known channels have their own ones, or no channel has. -/
def initial (defaults : Policy) (known : Bool) : Policies :=
  if known then builtin defaults else { defaults := defaults }

/-- What is set for a known channel. -/
def knownOverride? (channel : String) : Option Policy.Override :=
  if channel ∈ readChannels then some { maxAttempts := some 3 }
  else if channel = "check-dns" then
    some { maxAttempts := some 5, baseDelay := some (Span.ofSeconds 2) }
  else none

variable (ps : Policies) (edits : List Edit) (channel : String)

@[simp] theorem editAll_nil : ps.editAll [] = ps := rfl

@[simp] theorem editAll_concat (e : Edit) : ps.editAll (edits ++ [e]) = (ps.editAll edits).edit e := by
  simp [editAll]

theorem defaults_editAll : (ps.editAll edits).defaults = ps.defaults := by
  induction edits using List.reverseRecOn with
  | nil => rfl
  | append_singleton edits e ih =>
    rw [editAll_concat, ← ih]
    cases e <;> rfl

/-- The last override for a channel wins. -/
theorem get?_channels_editAll : (ps.editAll edits).channels.get? channel =
    (edits.filterMap (Edit.override? channel)).getLast?.or (ps.channels.get? channel) := by
  induction edits using List.reverseRecOn with
  | nil => rfl
  | append_singleton edits e ih =>
    rw [editAll_concat, List.filterMap_append, List.getLast?_append, Option.or_assoc, ← ih]
    cases e with
    | forbid other => rfl
    | set other o =>
      rw [edit, set, Dict.get?_insert]
      by_cases h : channel = other <;> simp [Edit.override?, h, Ne.symm]

theorem isBlacklisted_editAll : (ps.editAll edits).isBlacklisted channel = true ↔
    .forbid channel ∈ edits ∨ ps.isBlacklisted channel = true := by
  induction edits using List.reverseRecOn with
  | nil => simp
  | append_singleton edits e ih =>
    rw [editAll_concat, List.mem_append, or_right_comm, ← ih, List.mem_singleton]
    cases e with
    | set other o => simp [edit, set, isBlacklisted]
    | forbid other => simp [edit, forbid, isBlacklisted, Names.add, or_comm]

/-- The known channels are edits of their own. -/
theorem builtin_eq (defaults : Policy) : builtin defaults =
    ({ defaults := defaults } : Policies).editAll
      (readChannels.map (.set · { maxAttempts := some 3 }) ++
        [.set "check-dns" { maxAttempts := some 5, baseDelay := some (Span.ofSeconds 2) }] ++
        onceChannels.map .forbid) := rfl

theorem defaults_builtin (defaults : Policy) : (builtin defaults).defaults = defaults := by
  rw [builtin_eq, defaults_editAll]

/-- The same is set for several channels. -/
theorem getLast?_overrides (channels : List String) (o : Policy.Override) :
    ((channels.map (Edit.set · o)).filterMap (Edit.override? channel)).getLast? =
      if channel ∈ channels then some o else none := by
  induction channels using List.reverseRecOn with
  | nil => rfl
  | append_singleton channels other ih =>
    rw [List.map_append, List.filterMap_append, List.getLast?_append, ih]
    by_cases h : other = channel
    · simp [Edit.override?, h]
    · simp [Edit.override?, h, Ne.symm h]

theorem get?_channels_builtin (defaults : Policy) :
    (builtin defaults).channels.get? channel = knownOverride? channel := by
  have hempty : ({ defaults := defaults } : Policies).channels.get? channel = none := rfl
  have honce : (onceChannels.map Edit.forbid).filterMap (Edit.override? channel) = [] := rfl
  rw [builtin_eq, get?_channels_editAll, hempty, Option.or_none, List.filterMap_append,
    List.filterMap_append, honce, List.append_nil, List.getLast?_append, getLast?_overrides]
  by_cases h : channel = "check-dns"
  · subst h
    rfl
  · simp [knownOverride?, Edit.override?, h, Ne.symm h]

theorem isBlacklisted_builtin (defaults : Policy) :
    (builtin defaults).isBlacklisted channel = true ↔ channel ∈ onceChannels := by
  rw [builtin_eq, isBlacklisted_editAll]
  simp [isBlacklisted, Dict.contains, onceChannels]

/-! ## After some edits -/

/-- What is set for a channel in the end. -/
def lastOverride (known : Bool) : Policy.Override :=
  ((edits.filterMap (Edit.override? channel)).getLast?.or
    (if known then knownOverride? channel else none)).getD {}

/-- A channel was forbidden, by whatever edit, or it is known that nothing is attempted twice on
it. -/
def Forbidden (known : Bool) : Prop :=
  .forbid channel ∈ edits ∨ known = true ∧ channel ∈ onceChannels

variable (defaults : Policy) (known : Bool)

theorem resolve_editAll : ((initial defaults known).editAll edits).resolve channel =
    (lastOverride edits channel known).apply defaults := by
  have hdefaults : (initial defaults known).defaults = defaults := by
    cases known <;> simp [initial, defaults_builtin]
  have hknown : (initial defaults known).channels.get? channel =
      if known then knownOverride? channel else none := by
    cases known <;> simp [initial, get?_channels_builtin]
  rw [resolve, get?_channels_editAll, defaults_editAll, hdefaults, hknown, lastOverride]
  cases (edits.filterMap (Edit.override? channel)).getLast?.or
    (if known then knownOverride? channel else none) <;> rfl

theorem isBlacklisted_editAll_iff :
    ((initial defaults known).editAll edits).isBlacklisted channel = true ↔
      Forbidden edits channel known := by
  rw [isBlacklisted_editAll, Forbidden]
  cases known
  · simp [initial, isBlacklisted, Dict.contains]
  · simp [initial, isBlacklisted_builtin]

theorem lastOverride_own : lastOverride (edits.filter (·.channel = channel)) channel known =
    lastOverride edits channel known := by
  have hown : (fun e : Edit => if e.channel = channel then e.override? channel else none) =
      Edit.override? channel := by
    funext e
    simp only [ite_eq_left_iff]
    intro hother
    cases e <;> simp_all [Edit.channel, Edit.override?]
  rw [lastOverride, List.filterMap_filter]
  simp only [decide_eq_true_eq, hown]
  rfl

theorem forbidden_own : Forbidden (edits.filter (·.channel = channel)) channel known ↔
    Forbidden edits channel known := by
  simp [Forbidden, Edit.channel]

/-- What is edited for other channels makes no difference. -/
theorem own_editAll :
    let ps := (initial defaults known).editAll edits
    let own := (initial defaults known).editAll (edits.filter (·.channel = channel))
    own.resolve channel = ps.resolve channel ∧ own.effective channel = ps.effective channel ∧
      own.isBlacklisted channel = ps.isBlacklisted channel := by
  intro ps own
  have hresolve : own.resolve channel = ps.resolve channel := by
    rw [resolve_editAll, resolve_editAll, lastOverride_own]
  have hblacklisted : own.isBlacklisted channel = ps.isBlacklisted channel := by
    rw [Bool.eq_iff_iff, isBlacklisted_editAll_iff, isBlacklisted_editAll_iff, forbidden_own]
  refine ⟨hresolve, ?_, hblacklisted⟩
  rw [effective, effective, limit, limit, hresolve, hblacklisted]

end Policies

/-! ## Policies of the settings -/

namespace RetrySettings

/-- What settings make of policies is made by edits. -/
theorem policies_eq (s : RetrySettings) : s.policies =
    (Policies.initial s.defaults s.builtin).editAll
      (s.channels.entries.map (fun e => .set e.1 e.2.override) ++ s.blacklist.map .forbid) := by
  rw [Policies.editAll, List.foldl_append, List.foldl_map, List.foldl_map]
  rfl

/-- The override of the settings takes the place of the one that a known channel has. -/
theorem resolve_policies (s : RetrySettings) (channel : String) : s.policies.resolve channel =
    (match s.channels.get? channel with
      | some c => c.override
      | none => if s.builtin then (Policies.knownOverride? channel).getD {} else {}).apply
        s.defaults := by
  have hforbid : (s.blacklist.map Policies.Edit.forbid).filterMap (Policies.Edit.override? channel) =
      [] := by
    simp [List.filterMap_map, Policies.Edit.override?]
  have hset : (s.channels.entries.map fun e => Policies.Edit.set e.1 e.2.override).filterMap
      (Policies.Edit.override? channel) = ((s.channels.get? channel).map (·.override)).toList := by
    rw [List.filterMap_map, Dict.get?, ← Dict.filterMap_eq_lookup _ s.channels.ordered]
    rfl
  rw [policies_eq, Policies.resolve_editAll, Policies.lastOverride, List.filterMap_append, hforbid,
    hset, List.append_nil]
  cases s.channels.get? channel with
  | none => cases s.builtin <;> rfl
  | some c => rfl

theorem isBlacklisted_policies (s : RetrySettings) (channel : String) :
    s.policies.isBlacklisted channel = true ↔
      channel ∈ s.blacklist ∨ s.builtin = true ∧ channel ∈ Policies.onceChannels := by
  rw [policies_eq, Policies.isBlacklisted_editAll_iff, Policies.Forbidden]
  simp

end RetrySettings

end Resilience
