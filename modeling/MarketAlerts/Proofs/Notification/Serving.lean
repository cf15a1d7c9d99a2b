import MarketAlerts.Notification.Notifier
import MarketAlerts.Proofs.Delivery.Outputs

/-!
What a delivery gives out, channel by channel. It opens its batch once, before it pauses, and each
channel that does not fail gets one notification.
-/
namespace MarketAlerts

open Delivery

/-- Events with the ticker under which they are delivered. -/
abbrev Bundle := String × List Event

def Dispatch.opening? : Dispatch → Option Bundle
  | opened ticker events => some (ticker, events)
  | _ => none

/-- What the channel at a position has got. -/
def Dispatch.receipt? (position : Nat) : Dispatch → Option Template
  | received place template => if place = position then some template else none
  | _ => none

def openings (told : List Dispatch) : List Bundle := told.filterMap Dispatch.opening?

def receipts (position : Nat) (told : List Dispatch) : List Template :=
  told.filterMap (Dispatch.receipt? position)

@[simp] theorem openings_append (a b : List Dispatch) :
    openings (a ++ b) = openings a ++ openings b :=
  List.filterMap_append

@[simp] theorem receipts_append (position : Nat) (a b : List Dispatch) :
    receipts position (a ++ b) = receipts position a ++ receipts position b :=
  List.filterMap_append

@[simp] theorem openings_logged (lines : List LogLine) : openings (lines.map .logged) = [] := by
  simp [openings, List.filterMap_map, Function.comp_def, Dispatch.opening?]

@[simp] theorem receipts_logged (position : Nat) (lines : List LogLine) :
    receipts position (lines.map .logged) = [] := by
  simp [receipts, List.filterMap_map, Function.comp_def, Dispatch.receipt?]

namespace Notifier

/-- The notification that a channel accepts for a batch, if it does not fail on the way. -/
def answer? (notifier : Notifier) (bundle : Bundle) : Option Template :=
  match notifier.compose bundle.1 bundle.2 with
  | .error _ => none
  | .ok template =>
    match notifier.send template with
    | .error _ => none
    | .ok _ => some template

/-- What the channel at a position accepts. -/
def answerAt? (notifiers : List Notifier) (position : Nat) (bundle : Bundle) : Option Template :=
  notifiers[position]?.bind (·.answer? bundle)

/-- The outputs that serve one channel. -/
theorem said_serve (notifier : Notifier) (position : Nat) (bundle : Bundle) :
    ∃ lines : List LogLine, said (notifier.serve position bundle.1 bundle.2) =
      lines.map Dispatch.logged ++ ((notifier.answer? bundle).map (.received position)).toList := by
  unfold serve answer?
  cases notifier.compose bundle.1 bundle.2 with
  | error fault => exact ⟨[notifier.failureLine fault.message], rfl⟩
  | ok template =>
    have silent : said (notifier.latency.map Action.pause).toList = ([] : List Dispatch) := by
      cases notifier.latency <;> rfl
    dsimp only
    rw [said_append, silent, List.nil_append]
    cases notifier.send template with
    | error reason => exact ⟨[notifier.failureLine reason], rfl⟩
    | ok lines =>
      refine ⟨lines, ?_⟩
      dsimp only
      rw [said_append]
      congr 1
      simp [said, List.filterMap_map, Function.comp_def, Action.output?]

theorem openings_serve (notifier : Notifier) (position : Nat) (bundle : Bundle) :
    openings (said (notifier.serve position bundle.1 bundle.2)) = [] := by
  obtain ⟨lines, outputs⟩ := notifier.said_serve position bundle
  rw [outputs, openings_append, openings_logged]
  cases notifier.answer? bundle <;> rfl

theorem receipts_serve (notifier : Notifier) (place position : Nat) (bundle : Bundle) :
    receipts position (said (notifier.serve place bundle.1 bundle.2)) =
      if place = position then (notifier.answer? bundle).toList else [] := by
  obtain ⟨lines, outputs⟩ := notifier.said_serve place bundle
  rw [outputs, receipts_append, receipts_logged, List.nil_append]
  by_cases here : place = position <;>
    cases notifier.answer? bundle <;> simp [receipts, Dispatch.receipt?, here]

/-- What is said to all channels. -/
def served (notifiers : List Notifier) (bundle : Bundle) (start : Nat) : List Dispatch :=
  said ((notifiers.zipIdx start).flatMap fun (notifier, position) =>
    notifier.serve position bundle.1 bundle.2)

theorem served_cons (notifier : Notifier) (rest : List Notifier) (bundle : Bundle) (start : Nat) :
    served (notifier :: rest) bundle start =
      said (notifier.serve start bundle.1 bundle.2) ++ served rest bundle (start + 1) := by
  rw [served, List.zipIdx_cons, List.flatMap_cons, said_append]
  rfl

theorem openings_served (notifiers : List Notifier) (bundle : Bundle) (start : Nat) :
    openings (served notifiers bundle start) = [] := by
  induction notifiers generalizing start with
  | nil => rfl
  | cons notifier rest ih => rw [served_cons, openings_append, openings_serve, ih, List.append_nil]

theorem receipts_served (notifiers : List Notifier) (bundle : Bundle) (start position : Nat) :
    receipts position (served notifiers bundle start) =
      if start ≤ position then (answerAt? notifiers (position - start) bundle).toList else [] := by
  induction notifiers generalizing start with
  | nil => simp [served, receipts, said, answerAt?]
  | cons notifier rest ih =>
    rw [served_cons, receipts_append, receipts_serve, ih]
    rcases Nat.lt_trichotomy start position with before | here | after
    · have next : position - start = position - (start + 1) + 1 := by omega
      rw [if_neg (Nat.ne_of_lt before), if_pos (Nat.succ_le_of_lt before),
        if_pos (Nat.le_of_lt before), next]
      simp [answerAt?]
    · subst here
      rw [if_pos rfl, if_neg (Nat.not_succ_le_self start), if_pos (Nat.le_refl start), Nat.sub_self,
        List.append_nil]
      rfl
    · rw [if_neg (Nat.ne_of_gt after), if_neg (by omega), if_neg (by omega), List.append_nil]

theorem said_deliver (notifiers : List Notifier) (bundle : Bundle) :
    said (deliver notifiers bundle.1 bundle.2) =
      .opened bundle.1 bundle.2 :: served notifiers bundle 0 := rfl

theorem openings_deliver (notifiers : List Notifier) (bundle : Bundle) :
    openings (said (deliver notifiers bundle.1 bundle.2)) = [bundle] := by
  rw [said_deliver]
  exact congrArg (bundle :: ·) (openings_served notifiers bundle 0)

theorem receipts_deliver (notifiers : List Notifier) (position : Nat) (bundle : Bundle) :
    receipts position (said (deliver notifiers bundle.1 bundle.2)) =
      (answerAt? notifiers position bundle).toList := by
  have rest := receipts_served notifiers bundle 0 position
  rw [said_deliver]
  unfold receipts at rest ⊢
  rw [List.filterMap_cons_none rfl, rest, if_pos (Nat.zero_le _), Nat.sub_zero]

/-- A delivery opens its batch before it pauses. -/
theorem openings_of_untilPause_deliver (notifiers : List Notifier) (bundle : Bundle)
    {seconds : Float} {rest : List (Action Float Dispatch)}
    (left : (Loop.untilPause (deliver notifiers bundle.1 bundle.2)).2 = some (seconds, rest)) :
    openings (said rest) = [] := by
  have all := openings_deliver notifiers bundle
  rw [said_untilPause, left, openings_append] at all
  have first : bundle ∈ openings (Loop.untilPause (deliver notifiers bundle.1 bundle.2)).1 := by
    simp [openings, deliver, Loop.untilPause, Dispatch.opening?]
  have one := congrArg List.length all
  have positive := List.length_pos_of_mem first
  rw [List.length_append, List.length_singleton] at one
  apply List.eq_nil_of_length_eq_zero
  dsimp only [Option.elim_some] at one
  omega

end Notifier

end MarketAlerts
