import CratonHsm.Abi.Calls
import CratonHsm.Library.TwoRuns

/-!
# Private objects and public readers

Sessions that are not logged in search the objects, read and change attributes and ask for sizes.
Private objects are visited by the search, and their handles may be known from an earlier login, but
what they hold never shows: from two states that differ only in private objects (`SamePublic`) every
sequence of these calls gives the same answers (`public_readers_see_alike`).

Each call is walked down once, in both states. A private object stops it at the same place in both
(`coincides_publicObject`), and a search skips it in both (`SamePublic.findObjects_eq`). The handles
in an open search may be those of private objects, since a search may be older than a logout; they
are the same in both states.

Scope. The map lists its objects in the order of their handles.
-/

set_option autoImplicit false

namespace CratonHsm

open Crypto Library Store
open Program

/-- The two objects differ only if both are private. -/
def Alike (obj other : StoredObject) : Prop :=
  obj = other ∨ obj.isPrivate = true ∧ other.isPrivate = true

/-- The states have the same handles and differ in private objects only, as far as the calls look,
and the sessions of the readers are not logged in. -/
structure SamePublic (readers : Set Nat) (s t : Hsm) : Prop where
  postFailed_eq : s.postFailed = t.postFailed
  sessions_eq : s.sessionManager = t.sessionManager
  objects : ∀ handle, Option.Rel Alike (s.objectStore.objects.get? handle)
    (t.objectStore.objects.get? handle)
  loggedOut : ∀ handle ∈ readers, ∀ session, s.sessionManager.sessions[handle]? = some session →
    session.state.isLoggedIn = false

/-- The call is one of the six, made by a reader. -/
def Call.IsOfReader (readers : Set Nat) : Call → Prop
  | .findObjectsInit session _ | .findObjects session _ | .findObjectsFinal session
  | .getAttributeValue session _ _ | .getObjectSize _ session _
  | .setAttributeValue session _ _ => session ∈ readers
  | _ => False

/-! ### Steps of the calls -/

section Steps

variable {readers : Set Nat} {s t : Hsm} {Result : Type} {handle : Nat}

theorem coincides_getHsm {f : Unit → Program Hsm CkRv Result} (h : SamePublic readers s t)
    (hgo : (f ()).Coincides (SamePublic readers) s t) :
    (getHsm >>= f).Coincides (SamePublic readers) s t := by
  refine coincides_reads h ?_ fun _ _ ↦ hgo
  rw [h.postFailed_eq]

theorem coincides_getSession (hreader : handle ∈ readers) {f : Session → Program Hsm CkRv Result}
    (h : SamePublic readers s t)
    (hgo : ∀ session, s.sessionManager.sessions[handle]? = some session →
      session.state.isLoggedIn = false → (f session).Coincides (SamePublic readers) s t) :
    (getSession handle >>= f).Coincides (SamePublic readers) s t := by
  refine coincides_reads h (by rw [h.sessions_eq]) fun session hsession ↦ ?_
  have hfound : s.sessionManager.sessions[handle]? = some session := by
    cases hfound : s.sessionManager.sessions[handle]? with
    | none => simp [SessionManager.getSession, hfound, toAbi] at hsession
    | some other => simpa [SessionManager.getSession, hfound, toAbi] using hsession
  exact hgo session hfound (h.loggedOut handle hreader session hfound)

/-- An object is the same public one in both states, or stops the call in both. -/
theorem coincides_publicObject {session : Session} {f : StoredObject → Program Hsm CkRv Result}
    (h : SamePublic readers s t) (hout : session.state.isLoggedIn = false)
    (hgo : ∀ obj, s.objectStore.objects.get? handle = some obj →
      t.objectStore.objects.get? handle = some obj →
        (f obj).Coincides (SamePublic readers) s t) :
    (getObject handle >>= fun obj ↦ requireLoginFor session obj >>= fun _ ↦ f obj).Coincides
      (SamePublic readers) s t := by
  have hrun : ∀ u : Hsm, (getObject handle >>= fun obj ↦ requireLoginFor session obj >>= fun _ ↦
      f obj) u = (u.objectStore.objects.get? handle).elim (.error .objectHandleInvalid, u)
        fun obj ↦ if obj.isPrivate = true then (.error .userNotLoggedIn, u) else f obj u := by
    intro u
    rw [getObject, reads_bind, ObjectStore.getObject]
    cases u.objectStore.objects.get? handle with
    | none => rfl
    | some obj =>
      simp only [toAbi, requireLoginFor, require_bind, hout, Bool.false_eq_true, imp_false,
        Option.elim]
      by_cases hprivate : obj.isPrivate = true
      · rw [if_neg (not_not.mpr hprivate), if_pos hprivate]
      · rw [if_pos hprivate, if_neg hprivate]
  have hobject := h.objects handle
  unfold Program.Coincides
  rw [hrun s, hrun t]
  cases hs : s.objectStore.objects.get? handle with
  | none =>
    cases ht : t.objectStore.objects.get? handle with
    | none => exact ⟨rfl, h⟩
    | some other => rw [hs, ht] at hobject; cases hobject
  | some obj =>
    cases ht : t.objectStore.objects.get? handle with
    | none => rw [hs, ht] at hobject; cases hobject
    | some other =>
      rw [hs, ht] at hobject
      cases hobject with
      | some halike =>
        rcases halike with rfl | ⟨hprivate, hprivate'⟩
        · by_cases hprivate : obj.isPrivate = true
          · simp only [Option.elim, if_pos hprivate, true_and]
            exact h
          · simp only [Option.elim, if_neg hprivate]
            exact hgo obj hs ht
        · simp only [Option.elim, if_pos hprivate, if_pos hprivate', true_and]
          exact h

/-- A change of a session that leaves its login alone keeps the states alike. -/
theorem SamePublic.putSession {session session' : Session} (h : SamePublic readers s t)
    (hsession : s.sessionManager.sessions[handle]? = some session)
    (hstate : session'.state = session.state) : SamePublic readers
      { s with sessionManager := s.sessionManager.setSession handle session' }
      { t with sessionManager := t.sessionManager.setSession handle session' } where
  postFailed_eq := h.postFailed_eq
  sessions_eq := by rw [h.sessions_eq]
  objects := h.objects
  loggedOut other hother found hfound := by
    have hsessions : (s.sessionManager.setSession handle session').sessions =
        s.sessionManager.sessions.insert handle session' := rfl
    rw [hsessions, getElem?_insert_eq_ite] at hfound
    split_ifs at hfound with hsame
    · obtain rfl := Option.some.inj hfound
      rw [hstate]
      exact h.loggedOut other hother session (hsame ▸ hsession)
    · exact h.loggedOut other hother found hfound

/-- The objects after an object has been written through its handle. -/
theorem get?_putObject {old obj : StoredObject}
    (hheld : s.objectStore.objects.get? handle = some old) (other : Nat) :
    (putObject handle obj s).2.objectStore.objects.get? other =
      if handle = other then some obj else s.objectStore.objects.get? other := by
  obtain ⟨ref, href, -⟩ := (s.objectStore.objects.get?_eq_some_iff).mp hheld
  simp only [putObject, update_apply, href]
  rw [SharedMap.get?_modify _ href]
  split_ifs with hother
  · rw [← hother, hheld, Option.map_some]
  · rfl

theorem putObject_frame (handle : Nat) (obj : StoredObject) (s : Hsm) :
    (putObject handle obj s).2.postFailed = s.postFailed ∧
      (putObject handle obj s).2.sessionManager = s.sessionManager := by
  simp only [putObject, update_apply]
  split <;> exact ⟨rfl, rfl⟩

/-- Writing the same object in both states keeps them alike. -/
theorem SamePublic.putObject {old old' obj : StoredObject} (h : SamePublic readers s t)
    (hs : s.objectStore.objects.get? handle = some old)
    (ht : t.objectStore.objects.get? handle = some old') :
    SamePublic readers (putObject handle obj s).2 (putObject handle obj t).2 where
  postFailed_eq := by
    rw [(putObject_frame handle obj s).1, (putObject_frame handle obj t).1, h.postFailed_eq]
  sessions_eq := by
    rw [(putObject_frame handle obj s).2, (putObject_frame handle obj t).2, h.sessions_eq]
  objects other := by
    rw [get?_putObject hs, get?_putObject ht]
    split_ifs with hother
    · exact .some (Or.inl rfl)
    · exact h.objects other
  loggedOut := by
    rw [(putObject_frame handle obj s).2]
    exact h.loggedOut

/-- A search by a session that is not logged in finds the same handles. -/
theorem SamePublic.findObjects_eq (h : SamePublic readers s t) (template : Template) :
    s.objectStore.findObjects template false = t.objectStore.findObjects template false := by
  refine SharedMap.filter_keys_eq h.objects fun handle obj other halike ↦ ?_
  rcases halike with rfl | ⟨hprivate, hprivate'⟩
  · rfl
  · simp [hprivate, hprivate']

end Steps

/-! ### The calls -/

section Calls

variable {readers : Set Nat} {s t : Hsm} {session : Nat}

section Calls

variable (hreader : session ∈ readers) (h : SamePublic readers s t)
include hreader h

theorem coincides_getObjectSize (recordSize object : Nat) :
    (cGetObjectSize recordSize session object).Coincides (SamePublic readers) s t := by
  refine coincides_getHsm h (coincides_getSession hreader h fun found _ hout ↦ ?_)
  exact coincides_publicObject h hout fun obj _ _ ↦ coincides_pure h _

theorem coincides_getAttributeValue (object : Nat) (requests : List (Nat × Option Nat)) :
    (cGetAttributeValue session object requests).Coincides (SamePublic readers) s t := by
  refine coincides_getHsm h (coincides_require h fun _ ↦ ?_)
  refine coincides_getSession hreader h fun found _ hout ↦ ?_
  exact coincides_publicObject h hout fun obj _ _ ↦ coincides_pure h _

theorem coincides_setAttributeValue (object : Nat) (template : Template) :
    (cSetAttributeValue session object template).Coincides (SamePublic readers) s t := by
  refine coincides_getHsm h (coincides_getSession hreader h fun found _ hout ↦ ?_)
  refine coincides_require h fun _ ↦ ?_
  refine coincides_publicObject h hout fun obj hs ht ↦ ?_
  refine coincides_require h fun _ ↦ ?_
  refine coincides_reads h rfl fun parsed _ ↦ coincides_update ?_
  have hwritten : SamePublic readers (putObject object (setAttributes obj parsed).2 s).2
      (putObject object (setAttributes obj parsed).2 t).2 := h.putObject hs ht
  exact coincides_reads hwritten rfl fun _ _ ↦ coincides_pure hwritten _

theorem coincides_findObjectsInit (template : Template) :
    (cFindObjectsInit session template).Coincides (SamePublic readers) s t := by
  refine coincides_getHsm h (coincides_getSession hreader h fun found hfound hout ↦ ?_)
  refine coincides_require h fun _ ↦ ?_
  refine coincides_reads h rfl fun parsed _ ↦ ?_
  refine coincides_view ?_ (coincides_update ?_)
  · rw [hout]
    exact h.findObjects_eq parsed
  · refine coincides_pure ?_ _
    exact h.putSession hfound rfl

theorem coincides_findObjects (maxCount : Nat) :
    (cFindObjects session maxCount).Coincides (SamePublic readers) s t := by
  refine coincides_getHsm h (coincides_getSession hreader h fun found hfound _ ↦ ?_)
  refine coincides_reads h rfl fun context _ ↦ coincides_update ?_
  refine coincides_pure ?_ _
  exact h.putSession hfound rfl

theorem coincides_findObjectsFinal :
    (cFindObjectsFinal session).Coincides (SamePublic readers) s t := by
  refine coincides_getHsm h (coincides_getSession hreader h fun found hfound _ ↦ ?_)
  refine coincides_require h fun _ ↦ coincides_update ?_
  refine coincides_pure ?_ _
  exact h.putSession hfound rfl

end Calls

theorem Call.coincides_of_reader {call : Call} (hreader : call.IsOfReader readers)
    (h : SamePublic readers s t) (platform : Platform) (env : CallEnv) :
    (call.entry platform env).Coincides (SamePublic readers) s t := by
  cases call with
  | getObjectSize recordSize session object => exact coincides_getObjectSize hreader h _ _
  | getAttributeValue session object requests => exact coincides_getAttributeValue hreader h _ _
  | setAttributeValue session object template => exact coincides_setAttributeValue hreader h _ _
  | findObjectsInit session template => exact coincides_findObjectsInit hreader h _
  | findObjects session maxCount => exact coincides_findObjects hreader h _
  | findObjectsFinal session => exact coincides_findObjectsFinal hreader h
  | _ => exact hreader.elim

/-- Whatever sequence of these calls sessions make that are not logged in, they get the same answers
from two states that differ in private objects only. -/
theorem public_readers_see_alike (platform : Platform) (h : SamePublic readers s t)
    {calls : List (CallEnv × Call)} (hcalls : ∀ call ∈ calls, call.2.IsOfReader readers) :
    replies (calls.map fun call ↦ call.2.entry platform call.1) s =
      replies (calls.map fun call ↦ call.2.entry platform call.1) t := by
  refine replies_eq_of_coincides (R := SamePublic readers) ?_ h
  intro entry hentry s t hst
  obtain ⟨call, hcall, rfl⟩ := List.mem_map.mp hentry
  exact Call.coincides_of_reader (hcalls call hcall) hst platform call.1

end Calls

/-! ### A private key under two labels -/

/-- The library after its user has logged out, with a private key. -/
def loggedOutLibrary : Hsm := (cLogout (callEnvAt 6) firstSession signerLibrary).2

/-- The same library with a label on the key. -/
def labelledLibrary : Hsm :=
  { loggedOutLibrary with objectStore := { loggedOutLibrary.objectStore with
      objects := loggedOutLibrary.objectStore.objects.modify 0 fun obj ↦
        { obj with label := [1] } } }

theorem labelled_samePublic : SamePublic {firstSession} loggedOutLibrary labelledLibrary where
  postFailed_eq := rfl
  sessions_eq := rfl
  objects handle := by
    have href : loggedOutLibrary.objectStore.objects.refs[firstObject]? = some 0 := by
      decide +kernel
    have hprivate : (loggedOutLibrary.objectStore.objects.get? firstObject).map
        StoredObject.isPrivate = some true := by
      decide +kernel
    have hlabelled : labelledLibrary.objectStore.objects.get? handle =
        if firstObject = handle then (loggedOutLibrary.objectStore.objects.get? handle).map
          fun obj ↦ { obj with label := [1] }
        else loggedOutLibrary.objectStore.objects.get? handle :=
      SharedMap.get?_modify _ href _ _
    rw [hlabelled]
    cases hheld : loggedOutLibrary.objectStore.objects.get? handle with
    | none => split_ifs <;> exact .none
    | some obj =>
      split_ifs with hhandle
      · rw [hhandle, hheld] at hprivate
        have hobj : obj.isPrivate = true := Option.some.inj hprivate
        exact .some (Or.inr ⟨hobj, hobj⟩)
      · exact .some (Or.inl rfl)
  loggedOut handle hhandle session hsession := by
    obtain rfl := hhandle
    have hout : loggedOutLibrary.sessionManager.sessions[firstSession]?.map
        (fun session ↦ session.state.isLoggedIn) = some false := by
      decide +kernel
    rw [hsession] at hout
    exact Option.some.inj hout

/-- A search by the label and a read of it get the same answers, though one key has the label. -/
theorem label_does_not_show :
    let calls : List (CallEnv × Call) :=
      [(callEnvAt 7, .findObjectsInit firstSession [(ckaLabel, [1])]),
        (callEnvAt 8, .findObjects firstSession 10),
        (callEnvAt 9, .getAttributeValue firstSession firstObject [(ckaLabel, some 8)])]
    let entries := calls.map fun call ↦ call.2.entry (Platform.recorded [] []) call.1
    replies entries loggedOutLibrary =
        [.ok .done, .ok (.handles []), .error .userNotLoggedIn] ∧
      replies entries labelledLibrary =
        [.ok .done, .ok (.handles []), .error .userNotLoggedIn] := by
  intro calls entries
  have hfirst : replies entries loggedOutLibrary =
      [.ok .done, .ok (.handles []), .error .userNotLoggedIn] := by
    decide +kernel
  have hcalls : ∀ call ∈ calls, call.2.IsOfReader {firstSession} := by
    simp [calls, Call.IsOfReader]
  refine ⟨hfirst, ?_⟩
  rw [← hfirst]
  exact (public_readers_see_alike (Platform.recorded [] []) labelled_samePublic hcalls).symm

end CratonHsm
