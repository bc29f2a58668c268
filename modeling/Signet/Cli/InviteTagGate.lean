import Signet.Cli.SingleUseInvites

/-!
# The tag of an invite

Every invite of a group carries a tag that is drawn for it, and the host keeps the tag
of the latest one in memory.  A join request is let through when its invite carries
the tag that is kept, or when none is kept: a host that has been restarted takes every
invite until it makes one itself.

* `tagMachine` — a host that makes invites, processes join requests and is restarted.
* `currentTag` — the tag of the latest invite of a group.
* `TagGated` — every acceptance is of an invite with a given tag of its group.
-/

namespace Signet
namespace Cli

open Kit Machine Schemas
open Signet.Core

/-! ## The host -/

/-- A join request that is being processed. -/
structure TagJoin where
  verified : VerifiedInvite
  senderInboxId : String
  /-- What `getGroupInviteTag` has answered. -/
  tagResult : Except SignetError (Option String)
  /-- The tag has been checked, and `addMembersToGroup` is awaited. -/
  adding : Bool

structure TagState where
  inviteTagStore : AssocMap String String
  invites : AssocMap Nat (GenerateInviteSlugOptions × Except SignetError String)
  joins : AssocMap Nat TagJoin
  calls : Nat

/-- What happens next. -/
inductive TagEvent where
  /-- `chat.invite` has an invite generated. -/
  | generate (opts : GenerateInviteSlugOptions) (nonce : Bytes)
  /-- `chat.invite` goes on with the invite. -/
  | generated (call : Nat)
  /-- `processJoinRequest`, up to the lookup of the tag. -/
  | process (deps : ProcessJoinRequestDeps) (senderInboxId : String) (content : MessageContent)
  /-- `processJoinRequest` goes on with the tag. -/
  | tagAnswered (call : Nat)
  /-- `addMembersToGroup` has answered. -/
  | added (call : Nat) (result : Except SignetError Unit)
  /-- The process ends, and the host is started again. -/
  | restart

/-- An event at a clock reading. -/
structure TagLabel where
  now : Int
  event : TagEvent

/-- What a step makes observable. -/
inductive TagObservation where
  | invited (opts : GenerateInviteSlugOptions) (result : Except SignetError String)
  | joined (call : Nat) (result : Except SignetError JoinRequestResult)

/-- The state after a segment, and what the segment made observable. -/
abbrev TagTurn := TagState × List TagObservation

variable (host : InviteHost)

/-- `chat.invite` stores the tag of an invite that has been generated. -/
def storeInvite (s : TagState) (call : Nat) : Option TagTurn :=
  match s.invites.get call with
  | none => none
  | some (opts, result) =>
    let left := { s with invites := s.invites.delete call }
    match result with
    | .error error => some (left, [.invited opts (.error error)])
    | .ok slug =>
      some ({ left with
        inviteTagStore := left.inviteTagStore.set opts.conversationId opts.inviteTag },
        [.invited opts (.ok slug)])

/-- `processJoinRequest`, up to the lookup of the tag in the store. -/
def beginJoin (now : Int) (s : TagState) (deps : ProcessJoinRequestDeps) (senderInboxId : String)
    (content : MessageContent) : TagTurn :=
  let counted := { s with calls := s.calls + 1 }
  match verifyJoinRequest host now deps content with
  | .error error => (counted, [.joined s.calls (.error error)])
  | .ok verified =>
    let tagResult := .ok (s.inviteTagStore.get verified.groupId)
    ({ counted with
      joins := counted.joins.set s.calls ⟨verified, senderInboxId, tagResult, false⟩ }, [])

def answerTag (s : TagState) (call : Nat) : Option TagTurn :=
  match s.joins.get call with
  | none => none
  | some join =>
    if join.adding then none
    else
      match checkInviteTag join.verified join.tagResult with
      | .error error =>
        some ({ s with joins := s.joins.delete call }, [.joined call (.error error)])
      | .ok () => some ({ s with joins := s.joins.set call { join with adding := true } }, [])

/-- The requester has been added, or not. -/
def finishJoin (s : TagState) (call : Nat) (result : Except SignetError Unit) :
    Option TagTurn :=
  match s.joins.get call with
  | none => none
  | some join =>
    if join.adding then
      some ({ s with joins := s.joins.delete call },
        [.joined call (result.map fun _ => joinResult join.verified join.senderInboxId)])
    else none

def tagStep (s : TagState) (label : TagLabel) : Option TagTurn :=
  match label.event with
  | .generate opts nonce =>
    some ({ s with
      invites := s.invites.set s.calls (opts, generateConvosInviteSlug host opts nonce)
      calls := s.calls + 1 }, [])
  | .generated call => storeInvite s call
  | .process deps senderInboxId content =>
    some (beginJoin host label.now s deps senderInboxId content)
  | .tagAnswered call => answerTag s call
  | .added call result => finishJoin s call result
  | .restart => some ({ s with inviteTagStore := .empty, invites := .empty, joins := .empty }, [])

/-- The host, with no tags. -/
def tagMachine : Machine TagState TagLabel TagObservation where
  init := ⟨.empty, .empty, .empty, 0⟩
  step := tagStep host

/-- A step of the host, with what it made observable. -/
abbrev TagOccurrence := Occurrence TagState TagLabel TagObservation

/-! ## The current tag -/

def invitedTag : TagObservation → Option (String × String)
  | .invited opts (.ok _) => some (opts.conversationId, opts.inviteTag)
  | _ => none

/-- The tag of the latest invite of the group. -/
def currentTag (h : List TagOccurrence) (groupId : String) : Option String :=
  ((outputs h).filterMap invitedTag).reverse.lookup groupId

/-- The step is none of a restart. -/
def stays (o : TagOccurrence) : Bool :=
  match o.label.event with
  | .restart => false
  | _ => true

def sinceRestart (h : List TagOccurrence) : List TagOccurrence :=
  (h.reverse.takeWhile stays).reverse

/-- Every acceptance is of a request whose invite, at the lookup, carried a tag of its
group that was in order. -/
def TagGated (inOrder : List TagOccurrence → VerifiedInvite → Prop) (h : List TagOccurrence) :
    Prop :=
  ∀ h₁ o h₂, h = h₁ ++ o :: h₂ → ∀ call join, .joined call (.ok join) ∈ o.out →
    ∃ before p after deps senderInboxId content verified,
      h₁ = before ++ p :: after ∧ p.pre.calls = call ∧
      p.label.event = .process deps senderInboxId content ∧
      verifyJoinRequest host p.label.now deps content = .ok verified ∧
      join = joinResult verified senderInboxId ∧ inOrder before verified

def CarriesCurrentTag (h : List TagOccurrence) (verified : VerifiedInvite) : Prop :=
  currentTag h verified.groupId = some verified.invite.tag

/-- The invite carries the tag of the latest invite of its group since the last
restart, or there has been none. -/
def CarriesKnownTag (h : List TagOccurrence) (verified : VerifiedInvite) : Prop :=
  ∀ tag, currentTag (sinceRestart h) verified.groupId = some tag → verified.invite.tag = tag

variable {host}

/-! ## What a step does -/

/-- The effect of a step. -/
inductive TagMove (host : InviteHost) (s : TagState) (label : TagLabel) :
    TagState → List TagObservation → Prop
  | generate (opts : GenerateInviteSlugOptions) (nonce : Bytes)
      (hEvent : label.event = .generate opts nonce) :
      TagMove host s label { s with
        invites := s.invites.set s.calls (opts, generateConvosInviteSlug host opts nonce)
        calls := s.calls + 1 } []
  | inviteFailed (call : Nat) (opts : GenerateInviteSlugOptions) (error : SignetError)
      (hEvent : label.event = .generated call) :
      TagMove host s label { s with invites := s.invites.delete call }
        [.invited opts (.error error)]
  | invited (call : Nat) (opts : GenerateInviteSlugOptions) (slug : String)
      (hEvent : label.event = .generated call) :
      TagMove host s label { s with
        invites := s.invites.delete call
        inviteTagStore := s.inviteTagStore.set opts.conversationId opts.inviteTag }
        [.invited opts (.ok slug)]
  | refuse (deps : ProcessJoinRequestDeps) (senderInboxId : String) (content : MessageContent)
      (error : SignetError) (hEvent : label.event = .process deps senderInboxId content) :
      TagMove host s label { s with calls := s.calls + 1 } [.joined s.calls (.error error)]
  | look (deps : ProcessJoinRequestDeps) (senderInboxId : String) (content : MessageContent)
      (verified : VerifiedInvite) (hEvent : label.event = .process deps senderInboxId content)
      (hVerified : verifyJoinRequest host label.now deps content = .ok verified) :
      TagMove host s label { s with
        calls := s.calls + 1
        joins := s.joins.set s.calls ⟨verified, senderInboxId,
          .ok (s.inviteTagStore.get verified.groupId), false⟩ } []
  | refuseTag (call : Nat) (error : SignetError) (hEvent : label.event = .tagAnswered call) :
      TagMove host s label { s with joins := s.joins.delete call } [.joined call (.error error)]
  | passTag (call : Nat) (join : TagJoin) (hEvent : label.event = .tagAnswered call)
      (hGet : s.joins.get call = some join)
      (hCheck : checkInviteTag join.verified join.tagResult = .ok ()) :
      TagMove host s label { s with joins := s.joins.set call { join with adding := true } } []
  | finish (call : Nat) (join : TagJoin) (result : Except SignetError Unit)
      (hEvent : label.event = .added call result) (hGet : s.joins.get call = some join)
      (hAdding : join.adding = true) :
      TagMove host s label { s with joins := s.joins.delete call }
        [.joined call (result.map fun _ => joinResult join.verified join.senderInboxId)]
  | restart (hEvent : label.event = .restart) :
      TagMove host s label { s with
        inviteTagStore := .empty, invites := .empty, joins := .empty } []

theorem tagStep_move {s t : TagState} {label : TagLabel} {out : List TagObservation}
    (h : tagStep host s label = some (t, out)) : TagMove host s label t out := by
  obtain ⟨now, event⟩ := label
  cases event with
  | generate opts nonce =>
    cases h
    exact .generate opts nonce rfl
  | generated call =>
    simp only [tagStep, storeInvite] at h
    split at h
    · cases h
    · next opts result hGet =>
      split at h
      · next error =>
        cases h
        exact .inviteFailed call opts error rfl
      · next slug =>
        cases h
        exact .invited call opts slug rfl
  | process deps senderInboxId content =>
    simp only [tagStep, beginJoin] at h
    split at h
    · next error hError =>
      cases h
      exact .refuse deps senderInboxId content error rfl
    · next verified hVerified =>
      cases h
      exact .look deps senderInboxId content verified rfl hVerified
  | tagAnswered call =>
    simp only [tagStep, answerTag] at h
    split at h
    · cases h
    · next join hGet =>
      split at h
      · cases h
      · split at h
        · next error hError =>
          cases h
          exact .refuseTag call error rfl
        · next hCheck =>
          cases h
          exact .passTag call join rfl hGet hCheck
  | added call result =>
    simp only [tagStep, finishJoin] at h
    split at h
    · cases h
    · next join hGet =>
      split at h
      · next hAdding =>
        cases h
        exact .finish call join result rfl hGet hAdding
      · cases h
  | restart =>
    cases h
    exact .restart rfl

/-! ## The store has the current tags -/

theorem sinceRestart_snoc (h : List TagOccurrence) (o : TagOccurrence) :
    sinceRestart (h ++ [o]) = if stays o then sinceRestart h ++ [o] else [] := by
  unfold sinceRestart
  rw [List.reverse_append, List.reverse_singleton, List.singleton_append, List.takeWhile_cons]
  split
  · rw [List.reverse_cons]
  · rfl

theorem currentTag_snoc (h : List TagOccurrence) (o : TagOccurrence) (groupId : String) :
    currentTag (h ++ [o]) groupId =
      ((o.out.filterMap invitedTag).reverse.lookup groupId).or (currentTag h groupId) := by
  unfold currentTag
  rw [outputs_append, outputs_singleton, List.filterMap_append,
    List.reverse_append, List.lookup_append]

theorem currentTag_snoc_of_nil (h : List TagOccurrence) {o : TagOccurrence} (groupId : String)
    (hOut : o.out.filterMap invitedTag = []) :
    currentTag (h ++ [o]) groupId = currentTag h groupId := by
  rw [currentTag_snoc, hOut]
  rfl

variable {h : List TagOccurrence} {s : TagState}

theorem store_current (hRun : (tagMachine host).Runs h s) (groupId : String) :
    s.inviteTagStore.get groupId = currentTag (sinceRestart h) groupId := by
  induction hRun with
  | start => rfl
  | @step h s t label out hRun hStep ih =>
    rw [sinceRestart_snoc]
    have hKept : stays ⟨s, label, out⟩ = true → out.filterMap invitedTag = [] →
        s.inviteTagStore.get groupId = currentTag (if stays ⟨s, label, out⟩ = true
          then sinceRestart h ++ [⟨s, label, out⟩] else []) groupId := by
      intro hStays hOut
      rw [if_pos hStays, currentTag_snoc_of_nil _ groupId hOut]
      exact ih
    cases tagStep_move hStep with
    | generate opts nonce hEvent => exact hKept (by simp [stays, hEvent]) rfl
    | inviteFailed call opts error hEvent => exact hKept (by simp [stays, hEvent]) rfl
    | invited call opts slug hEvent =>
      have hStays : stays ⟨s, label, [.invited opts (.ok slug)]⟩ = true := by
        simp [stays, hEvent]
      rw [if_pos hStays, currentTag_snoc, ← ih, AssocMap.get_set]
      simp only [List.filterMap_cons, invitedTag, List.filterMap_nil, List.reverse_singleton,
        List.lookup_cons, List.lookup_nil]
      by_cases hGroup : groupId = opts.conversationId
      · simp [hGroup]
      · have hOther : (groupId == opts.conversationId) = false := by simp [hGroup]
        rw [if_neg hGroup, hOther]
        rfl
    | refuse deps senderInboxId content error hEvent =>
      exact hKept (by simp [stays, hEvent]) rfl
    | look deps senderInboxId content verified hEvent hVerified =>
      exact hKept (by simp [stays, hEvent]) rfl
    | refuseTag call error hEvent => exact hKept (by simp [stays, hEvent]) rfl
    | passTag call join hEvent hGet hCheck => exact hKept (by simp [stays, hEvent]) rfl
    | finish call join result hEvent hGet hAdding =>
      exact hKept (by simp [stays, hEvent]) rfl
    | restart hEvent =>
      have hEnds : ¬ stays ⟨s, label, []⟩ = true := by simp [stays, hEvent]
      rw [if_neg hEnds]
      rfl

/-! ## Requests that are being processed -/

/-- The request was looked up at a step of the history, with the tag that was current. -/
def LookedUp (host : InviteHost) (h : List TagOccurrence) (call : Nat) (join : TagJoin) : Prop :=
  ∃ before p after deps content,
    h = before ++ p :: after ∧ p.pre.calls = call ∧
    p.label.event = .process deps join.senderInboxId content ∧
    verifyJoinRequest host p.label.now deps content = .ok join.verified ∧
    join.tagResult = .ok (currentTag (sinceRestart before) join.verified.groupId)

theorem LookedUp.snoc {call : Nat} {join : TagJoin} (hLooked : LookedUp host h call join)
    (o : TagOccurrence) : LookedUp host (h ++ [o]) call join := by
  obtain ⟨before, p, after, deps, content, hSplit, hRest⟩ := hLooked
  refine ⟨before, p, after ++ [o], deps, content, ?_, hRest⟩
  rw [hSplit, List.append_assoc, List.cons_append]

/-- Every request in flight was looked up, and its tag was checked before the addition. -/
def JoinsLookedUp (host : InviteHost) (h : List TagOccurrence) (s : TagState) : Prop :=
  ∀ call join, s.joins.get call = some join →
    LookedUp host h call join ∧
      (join.adding = true → checkInviteTag join.verified join.tagResult = .ok ())

theorem joinsLookedUp_run (hRun : (tagMachine host).Runs h s) : JoinsLookedUp host h s := by
  induction hRun with
  | start =>
    intro call join hGet
    cases hGet
  | @step h s t label out hRun hStep ih =>
    intro call join hGet
    have hOld : s.joins.get call = some join →
        LookedUp host (h ++ [⟨s, label, out⟩]) call join ∧
          (join.adding = true → checkInviteTag join.verified join.tagResult = .ok ()) := by
      intro hGet
      obtain ⟨hLooked, hChecked⟩ := ih call join hGet
      exact ⟨hLooked.snoc _, hChecked⟩
    have hDeleted : ∀ other, (s.joins.delete other).get call = some join →
        s.joins.get call = some join := by
      intro other hGet
      exact (AssocMap.of_get_delete hGet).2
    cases tagStep_move hStep with
    | generate opts nonce hEvent => exact hOld hGet
    | inviteFailed call opts error hEvent => exact hOld hGet
    | invited call opts slug hEvent => exact hOld hGet
    | refuse deps senderInboxId content error hEvent => exact hOld hGet
    | look deps senderInboxId content verified hEvent hVerified =>
      rcases AssocMap.get_set_cases hGet with ⟨hCall, rfl⟩ | ⟨-, hGet⟩
      · refine ⟨⟨h, _, [], deps, content, rfl, hCall.symm, hEvent, hVerified, ?_⟩, ?_⟩
        · exact congrArg Except.ok (store_current hRun verified.groupId)
        · intro hAdding
          cases hAdding
      · exact hOld hGet
    | refuseTag other error hEvent => exact hOld (hDeleted other hGet)
    | passTag other found hEvent hFound hCheck =>
      rcases AssocMap.get_set_cases hGet with ⟨hCall, rfl⟩ | ⟨-, hGet⟩
      · rw [← hCall] at hFound
        exact ⟨(ih call found hFound).1.snoc _, fun _ => hCheck⟩
      · exact hOld hGet
    | finish other found result hEvent hFound hAdding => exact hOld (hDeleted other hGet)
    | restart hEvent => cases hGet

/-- An acceptance ends a request whose tag has been checked. -/
theorem finish_of_joined {t : TagState} {label : TagLabel} {out : List TagObservation}
    (hMove : TagMove host s label t out) {call : Nat} {result : JoinRequestResult}
    (hMem : .joined call (.ok result) ∈ out) :
    ∃ join, s.joins.get call = some join ∧ join.adding = true ∧
      result = joinResult join.verified join.senderInboxId := by
  cases hMove with
  | finish other join given hEvent hGet hAdding =>
    cases given with
    | error error => cases List.mem_singleton.mp hMem
    | ok _ =>
      cases List.mem_singleton.mp hMem
      exact ⟨join, hGet, hAdding, rfl⟩
  | inviteFailed | invited | refuse | refuseTag => cases List.mem_singleton.mp hMem
  | _ => cases hMem

theorem tag_of_check {verified : VerifiedInvite} {known : Option String}
    (hCheck : checkInviteTag verified (.ok known) = .ok ()) {tag : String}
    (hKnown : known = some tag) : verified.invite.tag = tag := by
  subst hKnown
  simp only [checkInviteTag] at hCheck
  split at hCheck
  · next hTag => exact hTag.symm
  · cases hCheck

/-- **Tag-gated joins.**  In every run, every join request that is accepted carried, at
the lookup, the tag of the latest invite of its group since the host was started, or
the host had made no invite of the group since then. -/
theorem joins_gated_by_known_tag (hRun : (tagMachine host).Runs h s) :
    TagGated host CarriesKnownTag h := by
  intro h₁ o h₂ hSplit call result hMem
  obtain ⟨hPre, t, hStep⟩ := hRun.of_append_cons hSplit
  obtain ⟨join, hGet, hAdding, hResult⟩ := finish_of_joined (tagStep_move hStep) hMem
  obtain ⟨hLooked, hChecked⟩ := joinsLookedUp_run hPre call join hGet
  obtain ⟨before, p, after, deps, content, hBefore, hCall, hEvent, hVerified, hTag⟩ := hLooked
  refine ⟨before, p, after, deps, join.senderInboxId, content, join.verified, hBefore, hCall,
    hEvent, hVerified, hResult, ?_⟩
  intro tag hKnown
  have hCheck := hChecked hAdding
  rw [hTag] at hCheck
  exact tag_of_check hCheck hKnown

/-! ## Runs on fixed inputs -/

/-- The requests that have been accepted. -/
def joinedIn (h : List TagOccurrence) : List JoinRequestResult :=
  (outputs h).filterMap fun
    | .joined _ (.ok join) => some join
    | _ => none

/-- The step begins a join request. -/
def processes (o : TagOccurrence) : Bool :=
  match o.label.event with
  | .process _ _ _ => true
  | _ => false

/-- An acceptance whose tag was not current when any request was looked up. -/
theorem not_gated_of_stale {join : JoinRequestResult} (hJoined : join ∈ joinedIn h)
    (hStale : ∀ i < h.length, ∀ p ∈ h[i]?, processes p = true →
      currentTag (h.take i) join.groupId ≠ some join.inviteTag) :
    ¬ TagGated host CarriesCurrentTag h := by
  intro hGated
  obtain ⟨observation, hMem, hFound⟩ := List.mem_filterMap.mp hJoined
  obtain ⟨o, hStep, hOut⟩ := List.mem_flatMap.mp hMem
  obtain ⟨h₁, h₂, hSplit⟩ := List.append_of_mem hStep
  split at hFound
  · next call given =>
    cases hFound
    obtain ⟨before, p, after, deps, sender, content, verified, hBefore, -, hEvent, -, hResult,
      hTag⟩ := hGated h₁ o h₂ hSplit call join hOut
    have hWhole : h = before ++ p :: (after ++ o :: h₂) := by
      rw [hSplit, hBefore, List.append_assoc, List.cons_append]
    have hAt : p ∈ h[before.length]? := by
      rw [hWhole]
      simp
    have hTake : h.take before.length = before := by
      rw [hWhole]
      simp
    have hLength : before.length < h.length := by
      rw [hWhole]
      simp
    have hProcess : processes p = true := by
      unfold processes
      rw [hEvent]
    apply hStale before.length hLength p hAt hProcess
    rw [hTake, hResult]
    exact hTag
  · cases hFound

/-- A step at the epoch. -/
def tagAt (event : TagEvent) : TagLabel := ⟨0, event⟩

/-- An invite, an invite with another tag, a restart, and a request with the first
invite. -/
def staleTagJoin : List TagLabel :=
  [tagAt (.generate singleUseOptions sampleNonce), tagAt (.generated 0),
    tagAt (.generate { singleUseOptions with inviteTag := "next" } sampleNonce),
    tagAt (.generated 1), tagAt .restart,
    tagAt (.process ⟨creatorKeyHex, "aabb"⟩ "inbox_a" (.joinRequest singleUseSlug)),
    tagAt (.tagAnswered 2), tagAt (.added 2 (.ok ()))]

def sampleTagHost : Machine TagState TagLabel TagObservation := tagMachine sampleInviteHost

/-- An invite, and a request with it. -/
def knownTagJoin : List TagLabel :=
  [tagAt (.generate singleUseOptions sampleNonce), tagAt (.generated 0),
    tagAt (.process ⟨creatorKeyHex, "aabb"⟩ "inbox_a" (.joinRequest singleUseSlug)),
    tagAt (.tagAnswered 1), tagAt (.added 1 (.ok ()))]

theorem knownTagJoin_joins :
    sampleTagHost.Executes knownTagJoin fun h _ => joinedIn h = [⟨"group", "inbox_a", "tag"⟩] := by
  decide +kernel

theorem known_tag_joined :
    ∃ h s, sampleTagHost.exec sampleTagHost.init knownTagJoin = some (h, s) ∧
      joinedIn h = [⟨"group", "inbox_a", "tag"⟩] ∧
      TagGated sampleInviteHost CarriesKnownTag h := by
  refine ⟨_, _, exec_outcome knownTagJoin_joins.goes, knownTagJoin_joins.holds, ?_⟩
  exact joins_gated_by_known_tag knownTagJoin_joins.runs

theorem staleTagJoin_joins :
    sampleTagHost.Executes staleTagJoin fun h _ =>
      ⟨"group", "inbox_a", "tag"⟩ ∈ joinedIn h ∧
        ∀ i < h.length, ∀ p ∈ h[i]?, processes p = true →
          currentTag (h.take i) "group" ≠ some "tag" := by
  decide +kernel

/-- An invite from before the rotation of the tag is accepted after the restart. -/
theorem stale_tag_joined :
    ∃ h s, sampleTagHost.Runs h s ∧ ¬ TagGated sampleInviteHost CarriesCurrentTag h := by
  obtain ⟨h, s, -, hRun, hJoined, hStale⟩ := staleTagJoin_joins.exists_run
  exact ⟨h, s, hRun, not_gated_of_stale hJoined hStale⟩

end Cli
end Signet
