import ConfigNamespace.Proofs.Lookup.HeadRefused
import ConfigNamespace.Proofs.Namespace.Scope

/-!
# Lookups where requests for heads are refused

Families that hold the same documents, one where pages answer requests for their heads and one where
some of them refuse, stay so whatever is looked up in both, and the replies are alike. They can only
differ in the wording of failures, which names the request that came to nothing.
-/

namespace ConfigNamespace

open Operation

namespace Family

/-- Whether two families differ in nothing but their sessions, and these hold the same documents. -/
def Twins (f f' : Family) : Prop := ∃ s, f' = { f with session := s } ∧ f.session.SameDocuments s

/-- Every family is a twin of itself. -/
theorem Twins.refl (f : Family) : Twins f f := ⟨f.session, rfl, rfl⟩

/-- What a document names is a matter of the document. -/
theorem named_yields (f : Family) (d : Document) (key delimiter : Text) (segments rest : List Text) :
    (f.named d key delimiter segments rest).Yields (f.meaning d key delimiter segments rest) := by
  unfold named meaning
  dsimp only
  split
  · exact .map (.onLog fun log => CompositeBuilder.outcome_build _ _ _ _ _ log) _
  · split
    · exact .pure _
    · exact .map (.ofExcept _) _

section Accord

variable {f : Family} {w w' : World} {v : View} {base : Text}
  (hremote : readRoot (f.rootOf v) = .ok (.remote, base))
  (halike : w.AnswersAlike) (hrefuses : w.RefusesHeads w')
include hremote halike hrefuses

/-- What segments name is found in accord. -/
theorem find_inAccord (key : Text) (segments : List Text) :
    InAccord Session.SameDocuments (· = ·) (f.find w v key segments) (f.find w' v key segments) := by
  refine .ite (.bind (Yields.throw _).inAccord_self fun _ _ _ => ?_) ?_
  all_goals
    refine .ofExcept_bind hremote (.bind (Locator.walk_inAccord halike hrefuses _ _ _) ?_)
    rintro ⟨_ | handle, rest⟩ _ rfl
    · exact (Yields.throw _).inAccord_self
    · refine .bind (.of_inStep (Locator.load_inStep hrefuses handle _)) ?_
      rintro d _ rfl
      exact (named_yields f d key _ segments rest).inAccord_self

/-- What a key names is sought in accord. -/
theorem seek_inAccord (key : Value) :
    InAccord Session.SameDocuments (· = ·) (f.seek w v key) (f.seek w' v key) := by
  refine .ite (.bind (Yields.note _ _ _).inAccord_self fun _ _ _ =>
    (Yields.throw _).inAccord_self) ?_
  cases key with
  | str key =>
    cases key with
    | nil => exact .bind (Yields.ofExcept _).inAccord_self fun _ _ h => h ▸ (Yields.pure _).inAccord_self
    | cons c key =>
      dsimp only
      cases v.entries.get? (c :: key) with
      | some value => exact (Yields.noted _ _ _ _).inAccord_self
      | none =>
        refine .ite (Yields.pure _).inAccord_self (.ite (Yields.pure _).inAccord_self ?_)
        refine .bind (Yields.ofExcept _).inAccord_self ?_
        rintro segments _ rfl
        exact find_inAccord hremote halike hrefuses _ _
  | _ => exact (Yields.throw _).inAccord_self

end Accord

section Lookups

variable {f f' : Family} {w w' : World} {number : Nat} {base : Text}

/-- Results that agree are settled in families that are twins. -/
theorem twins_settle (f : Family) (v : View) {s : Session}
    {found found' : Except Failure Named × Session} (hagree : Agree (· = ·) found.1 found'.1)
    (hsame : found.2.SameDocuments found'.2) :
    Twins (f.settle v found).2 (settle { f with session := s } v found').2 := by
  obtain ⟨result, t⟩ := found
  obtain ⟨result', t'⟩ := found'
  cases hagree with
  | error _ => exact ⟨t', rfl, hsame⟩
  | @ok named _ heq =>
    subst heq
    cases named with
    | value value => exact ⟨t', rfl, hsame⟩
    | place segments => exact ⟨t', rfl, hsame⟩

section

variable (halike : w.AnswersAlike) (hrefuses : w.RefusesHeads w')
include halike hrefuses

/-- A lookup at servers leaves twins. -/
theorem Twins.lookup (h : Twins f f')
    (hremote : readRoot (f.rootOf (f.view number)) = .ok (.remote, base)) (key : Value) :
    Twins ((lookup w number key).outcome f).2 ((lookup w' number key).outcome f').2 := by
  obtain ⟨s, rfl, hs⟩ := h
  obtain ⟨hagree, hsame⟩ := seek_inAccord hremote halike hrefuses key f.session s hs
  rw [outcome_lookup, outcome_lookup]
  exact twins_settle f (f.view number) hagree hsame

/-- Requests for pages stand in for those for their heads. Where pages answer both alike, let some of
them not allow requests for their heads in a second world. Then a lookup in a namespace beneath a
server is answered alike in both worlds, from whatever documents are held before: with the same value
or composite, with namespaces that start from the same segments, or with failures of the same kind. The
same documents are held afterwards, and nothing else of the families differs but what their sessions
keep of requests, looks and records. -/
theorem lookup_alike_of_refusesHeads (htwins : Twins f f')
    (hremote : readRoot (f.rootOf (f.view number)) = .ok (.remote, base)) (key : Value) :
    Reply.Alike (· = ·) (reply (Family.lookup w number key) f)
        (reply (Family.lookup w' number key) f') ∧
      Twins ((Family.lookup w number key).outcome f).2
        ((Family.lookup w' number key).outcome f').2 := by
  refine ⟨?_, htwins.lookup halike hrefuses hremote key⟩
  obtain ⟨s, rfl, hs⟩ := htwins
  rw [reply_of_settle (outcome_lookup f w number key), reply_of_settle (outcome_lookup _ w' number key)]
  exact Reply.alike_ofNamed _ _ (seek_inAccord hremote halike hrefuses key f.session s hs).1

end

/-- A server with an empty page and a document beneath it, and one that is out of reach. -/
def pagedWorld : World :=
  .ofPages [
    (text "http://h/app", ⟨.status 200, .status 200, []⟩),
    (text "http://h/app/port", ⟨.status 503, .status 503, []⟩),
    (text "http://h/app/default.properties",
      ⟨.status 200, .status 200, Text.utf8 (text "port=1\n")⟩),
    (text "http://h/gone", ⟨.refused, .refused, []⟩)]

/-- At the server with these pages, which then refuse all requests for their heads. -/
theorem lookup_alike_pagedWorld :
    let f := opened (.at (some (text "http://h")) []) .default
    let key := Value.str (text "app.port")
    Reply.Alike (· = ·) (reply (lookup pagedWorld 0 key) f)
        (reply (lookup pagedWorld.refusingHeads 0 key) f) ∧
      Twins ((lookup pagedWorld 0 key).outcome f).2
        ((lookup pagedWorld.refusingHeads 0 key).outcome f).2 ∧
      ((lookup pagedWorld.refusingHeads 0 key).outcome f).1.toOption.bind Value.text? =
        some (text "1") := by
  intro f key
  have halike : pagedWorld.AnswersAlike := World.answersAlike_of_forall (by decide)
  have hremote : readRoot (f.rootOf (f.view 0)) = .ok (.remote, text "http://h") := rfl
  obtain ⟨hreply, htwins⟩ := lookup_alike_of_refusesHeads halike
    (World.refusesHeads_refusingHeads pagedWorld) (Twins.refl f) hremote key
  exact ⟨hreply, htwins, by decide +kernel⟩

end Lookups

end Family

end ConfigNamespace
