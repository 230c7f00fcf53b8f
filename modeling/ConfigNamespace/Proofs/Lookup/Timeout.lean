import ConfigNamespace.Proofs.Lookup.Remote

/-!
# The first timeout is the end

An operation that looks at servers makes its requests one after another until one is not answered in
time. Then it fails with this very timeout.
-/

namespace ConfigNamespace

open Operation

/-- How an operation from a session has come out that takes notice of timeouts. -/
inductive Heeded (w : World) (s : Session) {α : Type} : Except Failure α × Session → Prop
  /-- All requests were answered. -/
  | answered {result : Except Failure α} {t : Session} (made : List Request)
    (hmade : t.requests = s.requests ++ made) (h : ∀ r ∈ made, ¬w.TimesOut r) :
    Heeded w s (result, t)
  /-- The last request was not answered in time, and this is how it failed. -/
  | overdue {t : Session} (before : List Request) (r : Request)
    (hmade : t.requests = s.requests ++ (before ++ [r])) (hbefore : ∀ r ∈ before, ¬w.TimesOut r)
    (h : w.TimesOut r) : Heeded w s (.error r.overdue, t)

/-- Whether an operation takes notice of timeouts, from whatever session. -/
def Operation.Heeds (w : World) {α : Type} (op : Operation Session α) : Prop :=
  ∀ s, Heeded w s (op.outcome s)

namespace Heeded

variable {w : World} {s t : Session} {α β : Type}

/-- Where no request is made, no timeout is to be noticed. -/
theorem of_eq {result : Except Failure α} (h : t.requests = s.requests) : Heeded w s (result, t) :=
  .answered [] (by simp [h]) (by simp)

/-- What comes after answered requests ends as it does on its own. -/
theorem after {made : List Request} (hmade : t.requests = s.requests ++ made)
    (hanswered : ∀ r ∈ made, ¬w.TimesOut r) {out : Except Failure β × Session}
    (h : Heeded w t out) : Heeded w s out := by
  have hboth {more : List Request} (hmore : ∀ r ∈ more, ¬w.TimesOut r) :
      ∀ r ∈ made ++ more, ¬w.TimesOut r := by
    intro r hr
    rcases List.mem_append.mp hr with hr | hr
    · exact hanswered r hr
    · exact hmore r hr
  cases h with
  | answered more hmore hall =>
    exact .answered (made ++ more) (by rw [hmore, hmade, List.append_assoc]) (hboth hall)
  | overdue before r hmore hbefore hlast =>
    refine .overdue (made ++ before) r ?_ (hboth hbefore) hlast
    rw [hmore, hmade, List.append_assoc, List.append_assoc]

end Heeded

namespace Operation.Heeds

variable {w : World} {α β : Type}

/-- What makes no requests takes notice of timeouts. -/
theorem of_fixing {op : Operation Session α} (h : op.Follows (.fixing Session.requests)) :
    op.Heeds w := fun s => .of_eq (h s)

/-- A request takes notice of its timeout. -/
theorem request (timeout : Quantity) (method : RequestMethod) (url : Text) :
    (Backend.request w timeout method url).Heeds w := by
  intro s
  obtain ⟨hresult, hmade, -⟩ := Backend.outcome_request w timeout method url s
  rcases hout : (Backend.request w timeout method url).outcome s with ⟨result, t⟩
  rw [hout] at hresult hmade
  by_cases hlate : w.TimesOut ⟨method, url, timeout⟩
  · obtain rfl : result = .error (Request.overdue ⟨method, url, timeout⟩) := by
      rw [show result = w.reply ⟨method, url, timeout⟩ from hresult, hlate.reply_eq]
    exact .overdue [] _ hmade (by simp) hlate
  · exact .answered [⟨method, url, timeout⟩] hmade (by simpa using hlate)

/-- What follows an operation is done only if all requests of the first were answered. -/
theorem bind {op : Operation Session α} {next : α → Operation Session β} (h : op.Heeds w)
    (hnext : ∀ a, (next a).Heeds w) : (op >>= next).Heeds w := by
  intro s
  have hfirst := h s
  rcases hop : op.outcome s with ⟨failure | a, t⟩
  all_goals rw [hop] at hfirst
  · rw [outcome_bind_error hop]
    cases hfirst with
    | answered made hmade hall => exact .answered made hmade hall
    | overdue before r hmade hbefore hlast => exact .overdue before r hmade hbefore hlast
  · rw [outcome_bind_ok hop]
    cases hfirst with
    | answered made hmade hall => exact (hnext a t).after hmade hall

/-- Going on after failures takes notice of timeouts if it lets them through. -/
theorem attempt {op : Operation Session α} {next : Except Failure α → Operation Session β}
    (h : op.Heeds w) (hnext : ∀ result, (next result).Heeds w)
    (htimeout : ∀ failure, failure.kind = .resolutionTimeout →
      next (.error failure) = MonadExcept.throw failure) : (op.attempt >>= next).Heeds w := by
  intro s
  have hfirst := h s
  rcases hop : op.outcome s with ⟨result, t⟩
  have hattempt : op.attempt.outcome s = (.ok result, t) := by rw [outcome_attempt, hop]
  rw [hop] at hfirst
  rw [outcome_bind_ok hattempt]
  cases hfirst with
  | answered made hmade hall => exact (hnext result t).after hmade hall
  | overdue before r hmade hbefore hlast =>
    -- the timeout is let through, so nothing is done after the last request
    rw [htimeout r.overdue rfl, outcome_throw]
    exact .overdue before r hmade hbefore hlast

/-- Loading a document makes one request at most. -/
theorem load (b : Backing) (h : ResourceHandle) (delimiter : Text) :
    ((b.locator .remote).load h delimiter).Heeds b.world := by
  have hvisit : (Session.visit .content h).Heeds b.world := of_fixing (.modify fun _ => rfl)
  have hread : ((b.locator .remote).read h).Heeds b.world := by
    refine .bind hvisit fun _ => .bind (request _ _ _) fun code => ?_
    exact of_fixing (.ite (fun _ => .pure _) fun _ => .throw _)
  have hdocument : ((b.locator .remote).readDocument h delimiter).Heeds b.world := by
    refine .bind hread fun content => of_fixing ?_
    exact .bind (.ofExcept _) fun _ _ => .ofExcept _
  refine .bind (of_fixing .get) fun s => ?_
  split
  · exact of_fixing (.pure _)
  · refine .bind hdocument fun d => of_fixing (.bind (.modify fun _ => rfl) fun _ _ => ?_)
    exact .bind (fun _ => rfl) fun _ _ => .pure _

end Operation.Heeds

/-- Whatever looks at servers takes notice of timeouts. -/
theorem Backing.Looks.heeds {b : Backing} {α : Type} {op : Operation Session α} (h : b.Looks op) :
    op.Heeds b.world := by
  induction h with
  | pure a => exact .of_fixing (.pure a)
  | throw failure => exact .of_fixing (.throw failure)
  | onLog h => exact .of_fixing fun _ => rfl
  | visit inquiry h => exact .of_fixing (.modify fun _ => rfl)
  | request method url => exact .request _ method url
  | load h delimiter => exact .load b h delimiter
  | bind h hnext ih ihnext => exact .bind ih ihnext
  | attempt h hnext htimeout ih ihnext => exact .attempt ih ihnext htimeout

end ConfigNamespace
