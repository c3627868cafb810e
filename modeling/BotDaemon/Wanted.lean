import BotDaemon.Ownership

/-!
# The channels the caller wants

An allocator is there to keep its bots in the channels its caller asks for: `addChannel` asks for
a channel, `delChannel` takes it back, and no callback changes what the caller wants. `wanted`
is that set after a run, the abstract model of one allocator. The allocator does not keep to it
exactly: a wanted channel is lost when its bot's connection drops, when it is added again while
its `PART` is outstanding, or when the bot it was sent to disconnects before answering the
`JOIN` (`readded_channel_dropped`, `stranded_forever`). The other direction holds.

**Theorem (`managed_wanted`).** In every run of a new allocator, a channel the allocator manages
at the end is wanted, or it is joined by a bot whose `PART` for it is still unanswered. So the
allocator never queues a channel the caller took back, never maps one into `channels` again, and
keeps a joined one only until the server confirms that its bot left it.

**Theorem (`connectionLost_unmanaged`).** Only `addChannel` makes a channel managed
(`run_unmanaged`). So when a bot's connection drops and `botDisconnected` deletes it, the
channels it was in stay unmanaged in every later run until the caller adds them again: they are
not handed to another bot, nor to the bot its factory connects next.

The proof of `managed_wanted` carries a relation `Tracks` between the wanted list and the world
along the run:

* *queued*: every channel in `existingBotRequests` or `newBotRequests` is wanted, and
* *active*: every entry of `channels` is wanted, or its bot has a `PART` for it outstanding.

`addChannel` queues only the channel it adds. `delChannel` takes the channel out of both queues,
which hold it once each (`Reachable.queues`), and sends the `PART` to the bot that `channels`
maps it to, the only one since each key is there once (`reachable_keys_nodup`), and a bot that
exists (`reachable_wired`). `botJoined` maps a channel only when it took it out of
`existingBotRequests`. The server's answer to a `PART` takes it out of the bot's list, and then
`Bot.left` finds the channel in its own list (`reachable_channelsHeld`) and `botLeft` deletes the
entry. The other callbacks only move channels between the queues, delete entries, or send no
`PART`.
-/

namespace BotDaemon

/-- What the caller wants after one more event: `addChannel` adds a channel, `delChannel` removes
it, and a callback changes nothing. -/
def wantStep (ws : List String) : Event → List String
  | .addChannel c => ws.insert c
  | .delChannel c => ws.filter (· ≠ c)
  | .callback _ => ws

/-- The channels the caller wants after a run of a new allocator. -/
def wanted (es : List Event) : List String := es.foldl wantStep []

namespace World

variable (cfg : Config)

/-! ## Every key of `channels` once -/

theorem step_keys_nodup {w w' : World} {e : Event} (h : (keys w.alloc.channels).Nodup)
    (hs : w.step cfg e = some w') : (keys w'.alloc.channels).Nodup := by
  cases e with
  | addChannel c =>
    cases hs
    rcases addChannel_alloc cfg w c with ha | ⟨-, ha | ha⟩ <;> rw [ha] <;> exact h
  | delChannel c => cases hs; rw [delChannel_alloc]; exact h
  | callback cb =>
    obtain ⟨o, ho, rfl⟩ := step_callback cfg hs
    cases cb with
    | connectionMade f =>
      obtain ⟨-, -, w₁, hw₁, rfl⟩ := deliver_connectionMade cfg ho
      rw [connectionMade_alloc cfg hw₁]; exact h
    | signedOn p =>
      obtain ⟨-, -, rfl⟩ := deliver_signedOn cfg ho
      rw [signedOn_alloc]; exact h
    | joined p c =>
      obtain ⟨-, -, rfl⟩ := deliver_joined cfg ho
      rcases joined_alloc (w.answerJoin p c) p c with ha | ⟨-, ha⟩ <;> rw [ha]
      · exact h
      · exact nodup_keys_setItem h c p
    | left p c =>
      obtain ⟨-, -, rfl⟩ := deliver_left cfg ho
      rcases left_alloc (w.answerPart p c) p c with ha | ⟨-, ha⟩ <;> rw [ha]
      · exact h
      · exact nodup_keys_filter h _
    | connectionLost p =>
      obtain ⟨-, rfl⟩ := deliver_connectionLost cfg ho
      rcases connectionLost_alloc (w.disconnect p) p with ha | ha <;> rw [ha]
      · exact h
      · exact nodup_keys_filter h _

theorem reachable_keys_nodup {w : World} (h : Reachable cfg w) : (keys w.alloc.channels).Nodup := by
  induction h with
  | init server => exact List.nodup_nil
  | step _ hs ih => exact step_keys_nodup cfg ih hs

/-! ## Which steps send or answer a `PART` -/

theorem parts_addChannel (w : World) (c : String) (q : Nat) :
    ((w.addChannel cfg c).2.bot q).parts = (w.bot q).parts := by
  by_cases hm : w.alloc.Managed c
  · rw [addChannel_of_managed cfg hm]
  · cases he : w.alloc.bots.find? fun e => (w.bot e.2).channels.length < cfg.channelsPerBot with
    | some e =>
      rw [addChannel_of_room cfg hm he, bot_modifyAlloc, join, bot_modifyBot]
      split_ifs <;> rfl
    | none => rw [addChannel_of_full cfg hm he]; dsimp only; split_ifs <;> rfl

theorem queued_addChannel {w : World} {c x : String}
    (hx : x ∈ (w.addChannel cfg c).2.alloc.existingBotRequests ∨
      x ∈ (w.addChannel cfg c).2.alloc.newBotRequests) :
    x ∈ w.alloc.existingBotRequests ∨ x ∈ w.alloc.newBotRequests ∨ x = c := by
  rcases addChannel_alloc cfg w c with ha | ⟨-, ha | ha⟩ <;> rw [ha] at hx
  · exact hx.imp_right .inl
  all_goals simp only [List.mem_append, List.mem_singleton] at hx; tauto

theorem parts_subset_delChannel (w : World) (c : String) (q : Nat) :
    (w.bot q).parts ⊆ ((w.delChannel c).bot q).parts := by
  unfold delChannel
  dsimp only
  split
  · rw [leave, bot_modifyBot]
    split_ifs
    · exact List.subset_append_left _ _
    · exact List.Subset.refl _
  · exact List.Subset.refl _

end World

/-! ## The allocator tracks what the caller wants -/

/-- The allocator asks only for wanted channels, and an unwanted joined channel has a `PART`
outstanding. -/
structure Tracks (ws : List String) (w : World) : Prop where
  queued : ∀ c, c ∈ w.alloc.existingBotRequests ∨ c ∈ w.alloc.newBotRequests → c ∈ ws
  active : ∀ e ∈ w.alloc.channels, e.1 ∈ ws ∨ e.1 ∈ (w.bot e.2).parts

namespace Tracks

variable {ws ws' : List String} {w w' : World}

theorem init (server : String × Nat) : Tracks [] (World.init server) :=
  ⟨fun _ h => by simp [World.init] at h, fun _ h => absurd h (List.not_mem_nil _)⟩

theorem mono (h : Tracks ws w) (hws : ws ⊆ ws')
    (hq : ∀ c, c ∈ w'.alloc.existingBotRequests ∨ c ∈ w'.alloc.newBotRequests →
      c ∈ w.alloc.existingBotRequests ∨ c ∈ w.alloc.newBotRequests ∨ c ∈ ws')
    (hc : ∀ e ∈ w'.alloc.channels, e ∈ w.alloc.channels)
    (hp : ∀ q, (w.bot q).parts ⊆ (w'.bot q).parts) : Tracks ws' w' := by
  refine ⟨fun c hc' => ?_, fun e he => ?_⟩
  · rcases hq c hc' with hx | hx | hx
    · exact hws (h.queued c (.inl hx))
    · exact hws (h.queued c (.inr hx))
    · exact hx
  · exact (h.active e (hc e he)).imp (fun hx => hws hx) fun hx => hp e.2 hx

end Tracks

namespace World

variable (cfg : Config)

theorem tracks_delChannel {w : World} {ws : List String} (hw : Reachable cfg w) (h : Tracks ws w)
    (c : String) : Tracks (ws.filter (· ≠ c)) (w.delChannel c) := by
  have hq := hw.queues cfg
  refine ⟨fun x hx => ?_, fun e he => ?_⟩
  · rw [delChannel_alloc] at hx
    have hxc : x ≠ c ∧ (x ∈ w.alloc.existingBotRequests ∨ x ∈ w.alloc.newBotRequests) := by
      rcases hx with hx | hx
      · rw [hq.existing_nodup.mem_erase_iff] at hx; exact ⟨hx.1, .inl hx.2⟩
      · rw [hq.new_nodup.mem_erase_iff] at hx; exact ⟨hx.1, .inr hx.2⟩
    simpa [hxc.1] using h.queued x hxc.2
  · rw [delChannel_alloc] at he
    by_cases hc : e.1 = c
    · have hget : getItem w.alloc.channels c = some e.2 :=
        hc ▸ getItem_of_mem (reachable_keys_nodup cfg hw) he
      right
      rw [bot_delChannel_of_active hget ((reachable_wired hw).channels_registered e he).1, hc]
      exact List.mem_append_right _ (List.mem_singleton_self c)
    · exact (h.active e he).imp (fun hx => by simpa [hc] using hx)
        fun hx => parts_subset_delChannel w c e.2 hx

theorem tracks_left {w : World} {ws : List String} (hw : Reachable cfg w) (h : Tracks ws w)
    {p : Nat} {c : String} (hp : w.Live p) :
    Tracks ws ((w.answerPart p c).left p c).1 := by
  set w₁ := w.answerPart p c
  have hsub : ∀ e ∈ (w₁.left p c).1.alloc.channels, e ∈ w.alloc.channels := by
    rcases left_alloc w₁ p c with ha | ⟨-, ha⟩ <;> rw [ha]
    · exact fun e he => he
    · exact fun e he => List.mem_of_mem_filter he
  have hgone : (c, p) ∉ (w₁.left p c).1.alloc.channels := by
    intro hin
    have hheld : c ∈ (w₁.bot p).channels := by
      simpa [w₁, answerPart, hp.1] using reachable_channelsHeld cfg hw _ (hsub _ hin)
    rw [left_alloc_of_mem hheld (mem_keys.mpr ⟨p, hsub _ hin⟩)] at hin
    simp at hin
  have hparts : ∀ e ∈ (w₁.left p c).1.alloc.channels, e.1 ∈ (w.bot e.2).parts →
      e.1 ∈ ((w₁.left p c).1.bot e.2).parts := by
    rintro ⟨x, q⟩ he hx
    obtain ⟨_, _, hb⟩ := bot_left w₁ p c q
    rw [hb]
    simp only [w₁, answerPart, bot_modifyBot]
    split_ifs with hq
    · obtain ⟨rfl, -⟩ := hq
      exact (List.mem_erase_of_ne fun hxc => hgone (by rwa [hxc] at he)).mpr hx
    · exact hx
  refine ⟨fun x hx => h.queued x ?_, fun e he => (h.active e (hsub e he)).imp id (hparts e he)⟩
  rcases left_alloc w₁ p c with ha | ⟨-, ha⟩ <;> rw [ha] at hx <;> exact hx

/-- Every step keeps `Tracks`, with the wanted list taking the same step. -/
theorem step_tracks {w w' : World} {ws : List String} {e : Event} (hw : Reachable cfg w)
    (h : Tracks ws w) (hs : w.step cfg e = some w') : Tracks (wantStep ws e) w' := by
  cases e with
  | addChannel c =>
    cases hs
    refine h.mono (fun _ hx => List.mem_insert_of_mem hx)
      (fun x hx => (queued_addChannel cfg hx).imp_right (Or.imp_right fun hxc => ?_))
      (fun e he => ?_) fun q => by rw [parts_addChannel]; exact List.Subset.refl _
    · exact hxc ▸ List.mem_insert_self c ws
    · rcases addChannel_alloc cfg w c with ha | ⟨-, ha | ha⟩ <;> rw [ha] at he <;> exact he
  | delChannel c => cases hs; exact tracks_delChannel cfg hw h c
  | callback cb =>
    obtain ⟨o, ho, rfl⟩ := step_callback cfg hs
    cases cb with
    | connectionMade f =>
      obtain ⟨-, -, w₁, hw₁, rfl⟩ := deliver_connectionMade cfg ho
      obtain ⟨nick, -, rfl⟩ := Option.map_eq_some'.mp hw₁
      refine h.mono (List.Subset.refl _) (fun x hx => hx.imp_right .inl) (fun e he => he)
        fun q x hx => ?_
      rw [bot_modifyFactory, bot_push]
      split_ifs with hq
      · subst hq
        simp only [bot, List.getD_eq_getElem?_getD, List.getElem?_eq_none le_rfl] at hx
        exact absurd hx (List.not_mem_nil x)
      · exact hx
    | signedOn p =>
      obtain ⟨-, -, rfl⟩ := deliver_signedOn cfg ho
      refine h.mono (List.Subset.refl _) (fun x hx => ?_)
        (fun e he => by rwa [signedOn_alloc] at he) fun q => ?_
      · rw [signedOn_alloc] at hx
        rcases hx with hx | hx
        · rcases List.mem_append.mp hx with hx | hx
          · exact .inl hx
          · exact .inr (.inl (List.mem_of_mem_take hx))
        · exact .inr (.inl (List.mem_of_mem_drop hx))
      · rw [bot_signedOn]; split_ifs <;> exact List.Subset.refl _
    | joined p c =>
      obtain ⟨-, -, rfl⟩ := deliver_joined cfg ho
      have hb : ∀ q, (((w.answerJoin p c).joined p c).1.bot q).parts = (w.bot q).parts := by
        intro q
        rw [bot_joined, answerJoin, bot_modifyBot, bot_modifyBot]
        split_ifs <;> rfl
      rcases joined_alloc (w.answerJoin p c) p c with ha | ⟨hc, ha⟩
      · exact h.mono (List.Subset.refl _) (fun x hx => by rw [ha] at hx; exact hx.imp_right .inl)
          (fun e he => by rwa [ha] at he) fun q => by rw [hb]; exact List.Subset.refl _
      · refine ⟨fun x hx => ?_, fun e he => ?_⟩
        · rw [ha] at hx
          exact h.queued x (hx.imp_left List.mem_of_mem_erase)
        · rw [ha] at he
          rw [hb]
          rcases mem_setItem he with he | ⟨hx, -⟩
          · exact h.active e he
          · exact .inl (hx ▸ h.queued c (.inl hc))
    | left p c =>
      obtain ⟨hp, -, rfl⟩ := deliver_left cfg ho
      exact tracks_left cfg hw h hp
    | connectionLost p =>
      obtain ⟨-, rfl⟩ := deliver_connectionLost cfg ho
      refine h.mono (List.Subset.refl _) (fun x hx => ?_) (fun e he => ?_) fun q => ?_
      · rcases connectionLost_alloc (w.disconnect p) p with ha | ha <;> rw [ha] at hx <;>
          exact hx.imp_right .inl
      · rcases connectionLost_alloc (w.disconnect p) p with ha | ha <;> rw [ha] at he
        · exact he
        · exact List.mem_of_mem_filter he
      · rw [bot_connectionLost, bot_disconnect]; exact List.Subset.refl _

theorem run_tracks {w w' : World} {ws : List String} {es : List Event} (hw : Reachable cfg w)
    (h : Tracks ws w) (hr : run cfg w es = some w') : Tracks (es.foldl wantStep ws) w' := by
  induction es generalizing w ws with
  | nil => cases hr; exact h
  | cons e es ih =>
    obtain ⟨w₁, h₁, hr⟩ := Option.bind_eq_some.mp hr
    exact ih (hw.step h₁) (step_tracks cfg hw h h₁) hr

end World

/-- In every run of a new allocator, a managed channel is wanted, or joined by a bot whose `PART`
for it is unanswered. -/
theorem managed_wanted (cfg : Config) {server : String × Nat} {es : List Event} {w : World}
    (hr : run cfg (World.init server) es = some w) {c : String} (hm : w.alloc.Managed c) :
    c ∈ wanted es ∨ ∃ p, w.msg c = some p ∧ c ∈ (w.bot p).parts := by
  have ht := World.run_tracks cfg (.init server) (Tracks.init server) hr
  rcases hm with hk | hq
  · obtain ⟨p, hp⟩ := mem_keys.mp hk
    have hn := World.reachable_keys_nodup cfg ((Reachable.init server).run hr)
    exact (ht.active _ hp).imp id fun h => ⟨p, getItem_of_mem hn hp, h⟩
  · exact .inl (ht.queued c hq)

/-- After `heldTrace` the caller removes `#a`; the bot's `PART` is not answered yet. -/
def leaveTrace : List Event := heldTrace ++ [.delChannel "#a"]

theorem managed_wanted_leaving : ∃ w, run Config.default (World.init freenode) leaveTrace = some w ∧
    w.alloc.Managed "#a" ∧
      ("#a" ∈ wanted leaveTrace ∨ ∃ p, w.msg "#a" = some p ∧ "#a" ∈ (w.bot p).parts) := by
  obtain ⟨w, hr, hm⟩ : ∃ w, run Config.default (World.init freenode) leaveTrace = some w ∧
      w.alloc.Managed "#a" := ⟨_, rfl, by decide⟩
  exact ⟨w, hr, hm, managed_wanted Config.default hr hm⟩

/-! ## Only the caller makes a channel managed -/

namespace World

variable (cfg : Config)

theorem managed_of_step {w w' : World} {e : Event} (hs : w.step cfg e = some w') {c : String}
    (he : e ≠ .addChannel c) (hc : w'.alloc.Managed c) : w.alloc.Managed c := by
  cases e with
  | addChannel d =>
    cases hs
    have hd : c ≠ d := fun h => he (h ▸ rfl)
    rcases addChannel_alloc cfg w d with ha | ⟨-, ha | ha⟩ <;> rw [ha] at hc
    · exact hc
    · simpa [BotAllocator.Managed, hd] using hc
    · simpa [BotAllocator.Managed, hd] using hc
  | delChannel d =>
    cases hs
    rw [BotAllocator.Managed, delChannel_alloc] at hc
    exact hc.imp_right (Or.imp List.mem_of_mem_erase List.mem_of_mem_erase)
  | callback cb =>
    obtain ⟨o, ho, rfl⟩ := step_callback cfg hs
    cases cb with
    | connectionMade f =>
      obtain ⟨-, -, w₁, hw₁, rfl⟩ := deliver_connectionMade cfg ho
      rwa [connectionMade_alloc cfg hw₁] at hc
    | signedOn p =>
      obtain ⟨-, -, rfl⟩ := deliver_signedOn cfg ho
      rw [BotAllocator.Managed, signedOn_alloc, List.mem_append] at hc
      rcases hc with hc | (hc | hc) | hc
      · exact .inl hc
      · exact .inr (.inl hc)
      · exact .inr (.inr (List.mem_of_mem_take hc))
      · exact .inr (.inr (List.mem_of_mem_drop hc))
    | joined p d =>
      obtain ⟨-, -, rfl⟩ := deliver_joined cfg ho
      rcases joined_alloc (w.answerJoin p d) p d with ha | ⟨hd, ha⟩ <;>
        rw [BotAllocator.Managed, ha] at hc
      · exact hc
      · rcases hc with hc | hc | hc
        · rcases mem_keys_setItem.mp hc with hc | rfl
          · exact .inl hc
          · exact .inr (.inl hd)
        · exact .inr (.inl (List.mem_of_mem_erase hc))
        · exact .inr (.inr hc)
    | left p d =>
      obtain ⟨-, -, rfl⟩ := deliver_left cfg ho
      rcases left_alloc (w.answerPart p d) p d with ha | ⟨-, ha⟩ <;>
        rw [BotAllocator.Managed, ha] at hc
      · exact hc
      · exact hc.imp_left mem_keys_filter
    | connectionLost p =>
      obtain ⟨-, rfl⟩ := deliver_connectionLost cfg ho
      rcases connectionLost_alloc (w.disconnect p) p with ha | ha <;>
        rw [BotAllocator.Managed, ha] at hc
      · exact hc
      · exact hc.imp_left mem_keys_filter

/-- A channel that is not managed stays so in every run that does not add it. -/
theorem run_unmanaged {w w' : World} {es : List Event} (hr : run cfg w es = some w') {c : String}
    (hc : ¬ w.alloc.Managed c) (hes : Event.addChannel c ∉ es) : ¬ w'.alloc.Managed c := by
  induction es generalizing w with
  | nil => cases hr; exact hc
  | cons e es ih =>
    obtain ⟨w₁, h₁, hr⟩ := Option.bind_eq_some.mp hr
    rw [List.mem_cons, not_or] at hes
    exact ih hr (fun h => hc (managed_of_step cfg h₁ (fun he => hes.1 he.symm) h)) hes.2

end World

/-- A channel whose bot's connection drops is not given to another bot: when `botDisconnected`
deletes the bot, the channel stays unmanaged in every later run until the caller adds it again. -/
theorem connectionLost_unmanaged (cfg : Config) {w w' : World} (hw : Reachable cfg w) {p : Nat}
    (hp : w.Live p) (hreg : (w.bot p).nickname ∈ keys w.alloc.bots) {c : String}
    (hc : w.msg c = some p) {es : List Event}
    (hr : run cfg w (.callback (.connectionLost p) :: es) = some w')
    (hes : Event.addChannel c ∉ es) : ¬ w'.alloc.Managed c := by
  simp only [run, World.step, World.deliver, if_pos hp, Option.map_some', Option.some_bind] at hr
  refine World.run_unmanaged cfg hr ?_ hes
  have hk : c ∈ keys w.alloc.channels := mem_keys.mpr ⟨p, getItem_eq_some hc⟩
  have hq := hw.queues cfg
  have hreg' : ((w.disconnect p).bot p).nickname ∈ keys (w.disconnect p).alloc.bots := by
    simpa [World.bot_disconnect] using hreg
  rw [BotAllocator.Managed, World.connectionLost_alloc_of_mem hreg']
  rintro (hc' | hc' | hc')
  · obtain ⟨q, hq'⟩ := mem_keys.mp hc'
    obtain ⟨hq₁, hq₂⟩ := List.mem_filter.mp hq'
    have hqp : some q = some p :=
      (getItem_of_mem (World.reachable_keys_nodup cfg hw) hq₁).symm.trans hc
    cases hqp
    simp at hq₂
  · exact hq.channels_existing hk hc'
  · exact hq.channels_new hk hc'

/-- After `heldTrace` bot `0` loses its connection; its factory connects again, and the new bot
signs on. -/
def dropTrace : List Event :=
  [.callback (.connectionLost 0), .callback (.connectionMade 0), .callback (.signedOn 1)]

theorem connectionLost_unmanaged_reconnect : ∃ w w', Reachable Config.default w ∧ w.Live 0 ∧
    (w.bot 0).nickname ∈ keys w.alloc.bots ∧ w.msg "#a" = some 0 ∧
    run Config.default w dropTrace = some w' ∧ Event.addChannel "#a" ∉ dropTrace.tail ∧
    ¬ w'.alloc.Managed "#a" := by
  obtain ⟨w, hw, hok⟩ := Reachable.of_run heldTrace (fun w => decide (w.Live 0 ∧
      (w.bot 0).nickname ∈ keys w.alloc.bots ∧ w.msg "#a" = some 0 ∧
      (run Config.default w dropTrace).isSome))
    (Reachable.init freenode : Reachable Config.default _) (by decide)
  obtain ⟨hp, hreg, hc, hsome⟩ := of_decide_eq_true hok
  obtain ⟨w', hr⟩ := Option.isSome_iff_exists.mp hsome
  exact ⟨w, w', hw, hp, hreg, hc, hr, by decide,
    connectionLost_unmanaged Config.default hw hp hreg hc hr (by decide)⟩

end BotDaemon
