import Mathlib
import RichChat.Proofs.History
import RichChat.Proofs.Mentioned
import RichChat.Proofs.Requests

/-!
# After one round of fetching

What arrives for a request makes the entity known that was asked for, and whatever is known stays
known. So when something has arrived for all requests of a rendering, the next one asks for nothing,
and all its mentions are resolved but those of roles outside of a guild, which are never asked for
(`Message.render_settles`).
-/

namespace RichChat

/-- An entity that comes for a request. -/
inductive Arrival
  | member (guild : GuildId) (member : Member)
  | user (user : User)
  | role (guild : GuildId) (role : Role)
  | channel (channel : Channel)
  deriving DecidableEq

/-- The request that an arrival answers. -/
def Arrival.request : Arrival → FetchRequest
  | member guild m => .member guild m.user.id
  | user u => .user u.id
  | role guild r => .role guild r.id
  | channel ch => .channel ch.id

namespace Store

/-- Takes in what has arrived. -/
def receive (store : Store) : Arrival → Store
  | .member guild m => store.insertMember guild m
  | .user u => store.insertUser u
  | .role guild r => store.insertRole guild r
  | .channel ch => store.insertChannel ch

def receiveAll (store : Store) (arrivals : List Arrival) : Store := arrivals.foldl receive store

/-- Whether the entity of a request is known. -/
def knows (store : Store) : FetchRequest → Bool
  | .member guild id => (store.member guild id).isSome
  | .user id => (store.user id).isSome
  | .role guild id => (store.role guild id).isSome
  | .channel id => (store.channel id).isSome

variable (store : Store)

theorem user_insertUser (u : User) (id : UserId) :
    (store.insertUser u).user id = if u.id = id then some u else store.user id :=
  lookup_cons _ _ _ _

theorem user_insertMember (guild : GuildId) (m : Member) (id : UserId) :
    (store.insertMember guild m).user id = if m.user.id = id then some m.user else store.user id :=
  lookup_cons _ _ _ _

theorem member_insertMember (guild guild' : GuildId) (m : Member) (id : UserId) :
    (store.insertMember guild m).member guild' id
      = if (guild, m.user.id) = (guild', id) then some m else store.member guild' id :=
  lookup_cons _ _ _ _

theorem role_insertRole (guild guild' : GuildId) (r : Role) (id : RoleId) :
    (store.insertRole guild r).role guild' id
      = if (guild, r.id) = (guild', id) then some r else store.role guild' id :=
  lookup_cons _ _ _ _

theorem channel_insertChannel (ch : Channel) (id : ChannelId) :
    (store.insertChannel ch).channel id = if ch.id = id then some ch else store.channel id :=
  lookup_cons _ _ _ _

/-- What was known stays known, and what was asked for becomes known. -/
theorem knows_receive {r : FetchRequest} {a : Arrival}
    (h : store.knows r = true ∨ a.request = r) : (store.receive a).knows r = true := by
  cases a with
  | member guild m =>
    cases r with
    | member guild' id =>
      simp only [receive, knows, member_insertMember, Arrival.request, FetchRequest.member.injEq,
        Prod.mk.injEq] at h ⊢
      split
      · rfl
      · exact h.resolve_right ‹_›
    | user id =>
      simp only [receive, knows, user_insertMember, Arrival.request, reduceCtorEq, or_false] at h ⊢
      split
      · rfl
      · exact h
    | role _ _ | channel _ => exact h.resolve_right nofun
  | user u =>
    cases r with
    | user id =>
      simp only [receive, knows, user_insertUser, Arrival.request, FetchRequest.user.injEq] at h ⊢
      split
      · rfl
      · exact h.resolve_right ‹_›
    | member _ _ | role _ _ | channel _ => exact h.resolve_right nofun
  | role guild ro =>
    cases r with
    | role guild' id =>
      simp only [receive, knows, role_insertRole, Arrival.request, FetchRequest.role.injEq,
        Prod.mk.injEq] at h ⊢
      split
      · rfl
      · exact h.resolve_right ‹_›
    | member _ _ | user _ | channel _ => exact h.resolve_right nofun
  | channel ch =>
    cases r with
    | channel id =>
      simp only [receive, knows, channel_insertChannel, Arrival.request,
        FetchRequest.channel.injEq] at h ⊢
      split
      · rfl
      · exact h.resolve_right ‹_›
    | member _ _ | user _ | role _ _ => exact h.resolve_right nofun

theorem knows_receiveAll (arrivals : List Arrival) {store : Store} {r : FetchRequest}
    (h : store.knows r = true ∨ ∃ a ∈ arrivals, a.request = r) :
    (store.receiveAll arrivals).knows r = true := by
  induction arrivals generalizing store with
  | nil => exact h.resolve_right (by simp)
  | cons a arrivals ih =>
    refine ih ?_
    rcases h with h | ⟨b, hb, hr⟩
    · exact .inl (knows_receive _ (.inl h))
    · rcases List.mem_cons.1 hb with rfl | hb
      · exact .inl (knows_receive _ (.inr hr))
      · exact .inr ⟨b, hb, hr⟩

/-- Asking makes nothing known or unknown. -/
theorem knows_requestAll (requests : List FetchRequest) (store : Store) :
    (store.requestAll requests).knows = store.knows := by
  induction requests generalizing store with
  | nil => rfl
  | cons r requests ih => exact (ih (store.request r)).trans rfl

end Store

/-- The request that is made for a mentioned entity if it is not known. -/
def Reference.fetch? (message : Option Message) (known : Option User) :
    Reference → Option FetchRequest
  | .user id =>
    match message.bind (·.guild) with
    | some guild => some (.member guild id)
    | none =>
      if known.isNone ∧ ∀ user ∈ (message.map (·.mentions)).getD [], user.id ≠ id then
        some (.user id)
      else none
  | .role id => (message.bind (·.guild)).map fun guild => .role guild id
  | .channel id => some (.channel id)

theorem Store.missing?_eq (store : Store) (message : Option Message) (known : Option User)
    (target : Reference) :
    store.missing? message known target
      = (target.fetch? message known).filter fun r => !store.knows r := by
  cases target with
  | user id =>
    cases hg : message.bind (·.guild) with
    | some guild => simp [missing?, Reference.fetch?, hg, Option.filter, knows]
    | none =>
      simp only [missing?, Reference.fetch?, hg, ← and_assoc]
      by_cases hfree : known.isNone = true ∧
          ∀ user ∈ (message.map (·.mentions)).getD [], user.id ≠ id
      · rw [if_pos hfree]
        by_cases hu : (store.user id).isNone = true
        · rw [if_pos ⟨hfree, hu⟩]
          simp_all [Option.filter, knows]
        · rw [if_neg fun h => hu h.2]
          simp_all [Option.filter, knows]
      · rw [if_neg hfree, if_neg fun h => hfree h.1]
        rfl
  | role id =>
    cases hg : message.bind (·.guild) with
    | some guild => simp [missing?, Reference.fetch?, hg, Option.filter, knows]
    | none => simp [missing?, Reference.fetch?, hg]
  | channel id => simp [missing?, Reference.fetch?, Option.filter, knows]

/-- Nothing is missing exactly if the entity that would be asked for is known. -/
theorem Store.missing?_eq_none {store : Store} {message : Option Message} {known : Option User}
    {target : Reference} : store.missing? message known target = none ↔
      ∀ r ∈ target.fetch? message known, store.knows r = true := by
  simp [Store.missing?_eq, Option.filter_eq_none_iff]

/-- Of what nothing is missing all data is known, except for roles outside of a guild. -/
theorem Scene.data?_eq_none_iff {scene : Scene} {store : Store} (hs : scene.store = some store)
    {known : Option User} {target : Reference}
    (h : store.missing? scene.message known target = none) :
    scene.data? known target = none ↔ target.kind = .role ∧ scene.guild = none := by
  cases target with
  | user id =>
    refine iff_of_false (fun hnone => ?_) (by simp [Reference.kind])
    cases hm : scene.member? id with
    | some member => simp [Scene.data?_of_member hm] at hnone
    | none =>
      rw [Scene.data?_of_no_member hm, Option.map_eq_none_iff, Option.or_eq_none_iff,
        Scene.user?_eq_none hs] at hnone
      cases hg : scene.message.bind (·.guild) with
      | some guild =>
        have hmember : store.member guild id = none := by
          simpa [Scene.member?, Scene.guild, hg, hs] using hm
        simp [Store.missing?, hg, hmember] at h
      | none =>
        simp only [Store.missing?, hg] at h
        rw [if_pos ⟨Option.isNone_iff_eq_none.2 hnone.1, hnone.2⟩] at h
        exact Option.some_ne_none _ h
  | role id =>
    cases hg : scene.message.bind (·.guild) with
    | some guild =>
      have hrole : ∃ role, store.role guild id = some role := by
        simpa [Store.missing?, hg, Option.ne_none_iff_exists'] using h
      simpa [Scene.data?, Scene.guild, hg, hs, Reference.kind] using hrole
    | none => simp [Scene.data?, Scene.guild, hg, Reference.kind]
  | channel id =>
    have hchannel : ∃ channel, store.channel id = some channel := by
      simpa [Store.missing?, Option.ne_none_iff_exists'] using h
    simpa [Scene.data?, hs, Reference.kind] using hchannel

/-- When something has arrived for every request of a rendering, the next rendering of the message
makes no request, and leaves no mention unresolved but those of roles outside of a guild. -/
theorem Message.render_settles (message : Message) (config : Config) (store : Store)
    (arrivals : List Arrival)
    (answered : ∀ r ∈ (message.render config (some store)).requests,
      ∃ a ∈ arrivals, a.request = r) :
    let asked := store.requestAll (message.render config (some store)).requests
    let next := message.render config (some (asked.receiveAll arrivals))
    next.requests = [] ∧
      ∀ s ∈ next.text.segments, ∀ m, s.kind = .mention m →
        (m.resolved = none ↔ m.kind = .role ∧ message.guild = none) := by
  intro asked next
  have hasks := message.asks_render config
  rw [hasks.requests] at answered
  -- What the first rendering did not find it asked for, so that the second one finds it.
  have hfound : ∀ target ∈ message.drawnMentions config,
      (asked.receiveAll arrivals).missing? (some message) none target = none := by
    intro target htarget
    refine Store.missing?_eq_none.2 fun r hr => Store.knows_receiveAll arrivals ?_
    rw [Store.knows_requestAll]
    by_cases hknown : store.knows r = true
    · exact .inl hknown
    · refine .inr (answered r (List.mem_eraseDups.2 (List.mem_filterMap.2 ⟨target, htarget, ?_⟩)))
      rw [Store.missing?_eq, hr, Option.filter_some, if_pos (by simpa using hknown)]
  constructor
  · rw [hasks.requests]
    have hnone : (asked.receiveAll arrivals).missingAll (some message)
        (message.drawnMentions config) = [] := List.filterMap_eq_nil_iff.2 hfound
    rw [hnone]
    rfl
  · intro s hs m hm
    have hmem : m ∈ next.text.mentions :=
      List.mem_filterMap.2 ⟨s, hs, Segment.mention?_eq_some.2 hm⟩
    rw [message.mentioned_render] at hmem
    obtain ⟨target, htarget, rfl⟩ := List.mem_map.1 hmem
    exact Scene.data?_eq_none_iff rfl (hfound target htarget)

/-- A member and a role arrive, the member with a role that is not known; a description mentions
the member again. -/
theorem Message.render_settles_greeting :
    let user : User := { id := ⟨7⟩, username := "ada" }
    let message : Message :=
      { id := ⟨1⟩, channel := ⟨2⟩, guild := some ⟨3⟩, author := user, content := "hi <@7> <@&4>",
        embeds := [{ description := some "by <@7>" }] }
    let arrivals : List Arrival :=
      [.member ⟨3⟩ { user, roles := [⟨5⟩] }, .role ⟨3⟩ { id := ⟨4⟩, name := "r" }]
    let first := message.render {} (some {})
    let next := message.render {} (some ((Store.requestAll {} first.requests).receiveAll arrivals))
    first.requests = [.member ⟨3⟩ ⟨7⟩, .role ⟨3⟩ ⟨4⟩] ∧ next.requests = [] ∧
      ∀ s ∈ next.text.segments, ∀ m, s.kind = .mention m →
        (m.resolved = none ↔ m.kind = .role ∧ message.guild = none) := by
  intro user message arrivals first next
  have hdrawn : message.drawnMentions {} = [.user ⟨7⟩, .role ⟨4⟩, .user ⟨7⟩] := by cbv
  have hfirst : first.requests = [.member ⟨3⟩ ⟨7⟩, .role ⟨3⟩ ⟨4⟩] := by
    rw [(message.asks_render {}).requests, hdrawn]
    decide
  refine ⟨hfirst, message.render_settles {} {} arrivals fun r hr => ?_⟩
  rw [hfirst, List.mem_pair] at hr
  rcases hr with rfl | rfl
  · exact ⟨_, .head _, rfl⟩
  · exact ⟨_, .tail _ (.head _), rfl⟩

end RichChat
