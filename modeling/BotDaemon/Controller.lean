import BotDaemon.Queues

/-!
# The controller

`BotController` answers the XML-RPC calls. It keeps one `BotAllocator` per server in `servers`,
creates it on the first `xmlrpc_addChannel` for that server, and deletes it from `servers` in
`xmlrpc_delChannel` once its `channels` dictionary is empty. Deleting the entry does not stop the
allocator: its bots stay connected and its factories keep connecting. So the model keeps every
allocator the controller created, by index, and `servers` maps a server to an index. A run of the
controller interleaves the XML-RPC calls with the callbacks of every allocator's bots and
factories; `xmlrpc_msg` changes no state.

**Theorem (`reachable_sound`).** In every reachable controller every allocator is a reachable
world of the allocator model, and `servers` leads every server to an allocator of that server.
Each controller step is one allocator step, so every invariant of reachable allocators holds of
each of them.

**Theorem (`delChannel_orphans`).** `xmlrpc_delChannel` looks only at `channels`. When the
server's allocator has joined no channel but still has one waiting in `existingBotRequests` or
`newBotRequests`, deleting any other channel drops the allocator from `servers` while it still
manages the waiting channel. A later `xmlrpc_addChannel` of that channel creates a second
allocator for the same server, and both manage it (`orphan_duplicated`).

**Theorem (`xmlrpcDelChannel_unmanaged`).** On a known server, deleting a channel its allocator
does not manage changes no allocator, and deletes the server's entry exactly when the allocator
has joined no channel, whatever waits in its queues. On an unknown server the call raises
`KeyError`.
-/

namespace BotDaemon

theorem AllocStep.server {cfg : Config} {a a' : BotAllocator} (h : AllocStep cfg a a') :
    (a'.host, a'.port) = (a.host, a.port) := by
  cases h <;> rfl

namespace World

/-- The `(host, port)` the allocator was made for. -/
def server (w : World) : String × Nat := (w.alloc.host, w.alloc.port)

@[simp] theorem server_init (server : String × Nat) : (World.init server).server = server := rfl

variable (cfg : Config)

theorem step_server {w w' : World} {e : Event} (hs : w.step cfg e = some w') :
    w'.server = w.server :=
  (step_alloc cfg hs).server

end World

/-- `BotController`: `servers` maps a server to the index of its allocator in `allocators`, which
holds every allocator the controller created. -/
structure BotController where
  servers : List ((String × Nat) × Nat)
  allocators : List World
deriving DecidableEq, Repr

namespace BotController

/-- `__init__`: no server yet. -/
def empty : BotController := ⟨[], []⟩

/-- The allocator with index `i`. -/
def allocator (ctl : BotController) (i : Nat) : World := ctl.allocators.getD i default

/-- Put `w` in place of allocator `i`. -/
def setAllocator (ctl : BotController) (i : Nat) (w : World) : BotController :=
  { ctl with allocators := ctl.allocators.set i w }

/-- `xmlrpc_getServers`. -/
def xmlrpcGetServers (ctl : BotController) : List (String × Nat) := keys ctl.servers

/-- `xmlrpc_getChannels`; `self.servers[server]` raises `KeyError` for an unknown server. -/
def xmlrpcGetChannels (ctl : BotController) (server : String × Nat) : Option (List String) :=
  (getItem ctl.servers server).map fun i => keys (ctl.allocator i).alloc.channels

/-- `xmlrpc_getBots`. -/
def xmlrpcGetBots (ctl : BotController) (server : String × Nat) : Option (List String) :=
  (getItem ctl.servers server).map fun i => keys (ctl.allocator i).alloc.bots

/-- `xmlrpc_getBotChannels`: the channels of the bot with nickname `nick`. -/
def xmlrpcGetBotChannels (ctl : BotController) (server : String × Nat) (nick : String) :
    Option (List String) :=
  (getItem ctl.servers server).bind fun i =>
    (getItem (ctl.allocator i).alloc.bots nick).map fun p => ((ctl.allocator i).bot p).channels

/-- The first lines of `xmlrpc_addChannel`: a server seen for the first time gets an allocator. -/
def ensureAllocator (ctl : BotController) (server : String × Nat) : BotController :=
  if hasKey ctl.servers server then ctl
  else ⟨setItem ctl.servers server ctl.allocators.length, ctl.allocators ++ [World.init server]⟩

/-- `xmlrpc_delChannel`, `none` for the `KeyError` of an unknown server. The allocator is deleted
from `servers` when its `channels` is empty. -/
def xmlrpcDelChannel (ctl : BotController) (server : String × Nat) (c : String) :
    Option BotController :=
  (getItem ctl.servers server).map fun i =>
    let ctl := ctl.setAllocator i ((ctl.allocator i).delChannel c)
    if (ctl.allocator i).alloc.channels = [] then
      { ctl with servers := (delItem ctl.servers server).getD ctl.servers }
    else ctl

/-- `xmlrpc_msg`: the bot that says the text; `KeyError` for an unknown server, or a channel no
bot is in. -/
def xmlrpcMsg (ctl : BotController) (server : String × Nat) (c : String) : Option Nat :=
  (getItem ctl.servers server).bind fun i => (ctl.allocator i).msg c

variable (cfg : Config)

/-- `xmlrpc_addChannel`: `True` when a bot is in the channel already. -/
def xmlrpcAddChannel (ctl : BotController) (server : String × Nat) (c : String) :
    Bool × BotController :=
  let ctl := ctl.ensureAllocator server
  let i := (getItem ctl.servers server).getD 0
  let r := (ctl.allocator i).addChannel cfg c
  (r.1.isSome, ctl.setAllocator i r.2)

/-- A call of the controller, or a callback to the bots and factories of allocator `i`. -/
inductive Action
  | addChannel (server : String × Nat) (channel : String)
  | delChannel (server : String × Nat) (channel : String)
  | callback (i : Nat) (cb : Callback)
deriving DecidableEq, Repr

/-- One step of the controller. A call that raises is answered with a fault and changes nothing. -/
def step (ctl : BotController) : Action → Option BotController
  | .addChannel s c => some (ctl.xmlrpcAddChannel cfg s c).2
  | .delChannel s c => some ((ctl.xmlrpcDelChannel s c).getD ctl)
  | .callback i cb =>
    if i < ctl.allocators.length then
      ((ctl.allocator i).step cfg (.callback cb)).map (ctl.setAllocator i)
    else none

/-- The controllers reachable from `__init__`. -/
inductive Reachable (cfg : Config) : BotController → Prop
  | empty : Reachable cfg empty
  | step {ctl ctl' : BotController} (a : Action) :
      Reachable cfg ctl → ctl.step cfg a = some ctl' → Reachable cfg ctl'

/-- Run actions one after the other. -/
def run (ctl : BotController) : List Action → Option BotController
  | [] => some ctl
  | a :: as => (ctl.step cfg a).bind fun ctl' => run ctl' as

theorem Reachable.run {ctl ctl' : BotController} {as : List Action} (h : Reachable cfg ctl)
    (hr : ctl.run cfg as = some ctl') : Reachable cfg ctl' := by
  induction as generalizing ctl with
  | nil => cases hr; exact h
  | cons a as ih =>
    obtain ⟨ctl₁, h₁, hr⟩ := Option.bind_eq_some.mp hr
    exact ih (h.step a h₁) hr

/-! ## Every allocator runs the allocator model -/

@[simp] theorem length_setAllocator (ctl : BotController) (i : Nat) (w : World) :
    (ctl.setAllocator i w).allocators.length = ctl.allocators.length :=
  List.length_set _ _ _

theorem allocator_setAllocator (ctl : BotController) {i : Nat} (w : World) (j : Nat)
    (hi : i < ctl.allocators.length) :
    (ctl.setAllocator i w).allocator j = if i = j then w else ctl.allocator j := by
  by_cases hj : i = j
  · subst hj; simp [allocator, setAllocator, List.getD_eq_getElem?_getD, hi]
  · simp [allocator, setAllocator, List.getD_eq_getElem?_getD, List.getElem?_set, hj]

theorem allocator_push_lt (ctl : BotController) (servers : List ((String × Nat) × Nat))
    (w : World) {j : Nat} (hj : j < ctl.allocators.length) :
    (⟨servers, ctl.allocators ++ [w]⟩ : BotController).allocator j = ctl.allocator j := by
  simp [allocator, List.getD_eq_getElem?_getD, List.getElem?_append_left hj]

theorem allocator_push_self (ctl : BotController) (servers : List ((String × Nat) × Nat))
    (w : World) :
    (⟨servers, ctl.allocators ++ [w]⟩ : BotController).allocator ctl.allocators.length = w := by
  simp [allocator, List.getD_eq_getElem?_getD]

@[simp] theorem setAllocator_allocator (ctl : BotController) (i : Nat) :
    ctl.setAllocator i (ctl.allocator i) = ctl := by
  suffices h : ctl.allocators.set i (ctl.allocator i) = ctl.allocators by simp [setAllocator, h]
  refine List.ext_getElem? fun j => ?_
  rw [List.getElem?_set]
  split_ifs with hij hi
  · subst hij; simp [allocator, hi]
  · subst hij; exact (List.getElem?_eq_none (Nat.le_of_not_lt hi)).symm
  · rfl

/-- Every allocator is a reachable world, and `servers` leads each server to one of its own. -/
structure Sound (ctl : BotController) : Prop where
  allocators_reachable : ∀ i < ctl.allocators.length, BotDaemon.Reachable cfg (ctl.allocator i)
  servers_allocator : ∀ s i, getItem ctl.servers s = some i →
    i < ctl.allocators.length ∧ (ctl.allocator i).server = s

namespace Sound

variable {cfg} {ctl : BotController}

theorem empty : Sound cfg BotController.empty :=
  ⟨fun _ h => absurd h (Nat.not_lt_zero _), fun _ _ h => by simp [BotController.empty, getItem] at h⟩

theorem step_allocator (h : Sound cfg ctl) {i : Nat} {e : Event} {w : World}
    (hi : i < ctl.allocators.length) (he : (ctl.allocator i).step cfg e = some w) :
    Sound cfg (ctl.setAllocator i w) := by
  refine ⟨fun j hj => ?_, fun s j hs => ?_⟩
  · rw [allocator_setAllocator _ _ _ hi]
    split_ifs with hij
    · exact (h.allocators_reachable i hi).step he
    · exact h.allocators_reachable j (by simpa using hj)
  · obtain ⟨hj, hjs⟩ := h.servers_allocator s j hs
    refine ⟨by simpa using hj, ?_⟩
    rw [allocator_setAllocator _ _ _ hi]
    split_ifs with hij
    · subst hij; rw [World.step_server cfg he, hjs]
    · exact hjs

theorem ensureAllocator (h : Sound cfg ctl) (server : String × Nat) :
    Sound cfg (ctl.ensureAllocator server) ∧
      ∃ i, getItem (ctl.ensureAllocator server).servers server = some i := by
  unfold BotController.ensureAllocator
  split_ifs with hs
  · exact ⟨h, Option.isSome_iff_exists.mp (getItem_isSome.mpr (hasKey_iff.mp hs))⟩
  refine ⟨⟨fun j hj => ?_, fun s j hj => ?_⟩, ctl.allocators.length, by simp⟩
  · rcases Nat.lt_succ_iff_lt_or_eq.mp (by simpa using hj) with hj | rfl
    · rw [allocator_push_lt _ _ _ hj]; exact h.allocators_reachable j hj
    · rw [allocator_push_self]; exact .init server
  · rw [getItem_setItem] at hj
    split_ifs at hj with hs'
    · cases hj; subst hs'; exact ⟨by simp, by rw [allocator_push_self, World.server_init]⟩
    · obtain ⟨hj, hjs⟩ := h.servers_allocator s j hj
      exact ⟨by simp; omega, by rw [allocator_push_lt _ _ _ hj, hjs]⟩

theorem delServer (h : Sound cfg ctl) (server : String × Nat) :
    Sound cfg { ctl with servers := (delItem ctl.servers server).getD ctl.servers } := by
  refine ⟨h.allocators_reachable, fun s i hs => h.servers_allocator s i ?_⟩
  rw [getItem_delItem_getD] at hs
  split_ifs at hs
  exact hs

end Sound

/-- Every step of the controller keeps `Sound`. -/
theorem step_sound {ctl ctl' : BotController} {a : Action} (h : Sound cfg ctl)
    (hs : ctl.step cfg a = some ctl') : Sound cfg ctl' := by
  cases a with
  | addChannel s c =>
    cases hs
    obtain ⟨h', i, hi⟩ := h.ensureAllocator s
    simp only [xmlrpcAddChannel, hi, Option.getD_some]
    exact h'.step_allocator (h'.servers_allocator s i hi).1
      (show ((ctl.ensureAllocator s).allocator i).step cfg (.addChannel c) = some _ from rfl)
  | delChannel s c =>
    cases hs
    cases hi : getItem ctl.servers s with
    | none => simpa [xmlrpcDelChannel, hi] using h
    | some i =>
      have h' := h.step_allocator (h.servers_allocator s i hi).1
        (show (ctl.allocator i).step cfg (.delChannel c) = some _ from rfl)
      simp only [xmlrpcDelChannel, hi, Option.map_some', Option.getD_some]
      split_ifs
      · exact h'.delServer s
      · exact h'
  | callback i cb =>
    simp only [step] at hs
    split_ifs at hs with hi
    obtain ⟨w, hw, rfl⟩ := Option.map_eq_some'.mp hs
    exact h.step_allocator hi hw

theorem reachable_sound {ctl : BotController} (h : Reachable cfg ctl) : Sound cfg ctl := by
  induction h with
  | empty => exact .empty
  | step _ _ hs ih => exact step_sound cfg ih hs

theorem xmlrpcAddChannel_of_unknown {ctl : BotController} {server : String × Nat} (c : String)
    (hs : getItem ctl.servers server = none) :
    (ctl.xmlrpcAddChannel cfg server c).2 = ⟨setItem ctl.servers server ctl.allocators.length,
      ctl.allocators ++ [((World.init server).addChannel cfg c).2]⟩ := by
  have hk : hasKey ctl.servers server = false :=
    Bool.eq_false_iff.mpr fun h => getItem_eq_none.mp hs (hasKey_iff.mp h)
  simp [xmlrpcAddChannel, ensureAllocator, hk, allocator_push_self, setAllocator]

/-! ## An allocator with only waiting channels is dropped -/

/-- When the server's allocator has joined no channel, `xmlrpc_delChannel` of a channel other
than a waiting one drops the allocator from `servers`, and the allocator still manages the
waiting channel. -/
theorem delChannel_orphans {ctl : BotController} {server : String × Nat} {i : Nat} {c d : String}
    (hs : getItem ctl.servers server = some i) (hi : i < ctl.allocators.length)
    (hj : (ctl.allocator i).alloc.channels = [])
    (hc : c ∈ (ctl.allocator i).alloc.existingBotRequests ∨
      c ∈ (ctl.allocator i).alloc.newBotRequests) (hd : d ≠ c) :
    ∃ ctl', ctl.xmlrpcDelChannel server d = some ctl' ∧ getItem ctl'.servers server = none ∧
      ctl'.allocators.length = ctl.allocators.length ∧
      ctl'.allocator i = (ctl.allocator i).delChannel d ∧
      ((ctl.allocator i).delChannel d).alloc.Managed c := by
  have hw := allocator_setAllocator ctl ((ctl.allocator i).delChannel d) i hi
  rw [if_pos rfl] at hw
  have hdel : ctl.xmlrpcDelChannel server d = some { ctl.setAllocator i ((ctl.allocator i).delChannel d)
      with servers := (delItem ctl.servers server).getD ctl.servers } := by
    simp only [xmlrpcDelChannel, hs, Option.map_some', hw, World.delChannel_alloc, hj, if_true]
    rfl
  refine ⟨_, hdel, by simp, by simp, hw, ?_⟩
  · simp only [BotAllocator.Managed, World.delChannel_alloc, hj, keys_nil, List.not_mem_nil, false_or]
    exact hc.imp (List.mem_erase_of_ne hd.symm).mpr (List.mem_erase_of_ne hd.symm).mpr

/-- Adding the waiting channel again after `delChannel_orphans` creates a second allocator for
the server, and both manage the channel. -/
theorem orphan_duplicated {ctl : BotController} (h : Sound cfg ctl) {server : String × Nat}
    {i : Nat} {c d : String} (hs : getItem ctl.servers server = some i)
    (hj : (ctl.allocator i).alloc.channels = [])
    (hc : c ∈ (ctl.allocator i).alloc.existingBotRequests ∨
      c ∈ (ctl.allocator i).alloc.newBotRequests) (hd : d ≠ c) :
    ∃ ctl', ctl.run cfg [.delChannel server d, .addChannel server c] = some ctl' ∧
      i < ctl'.allocators.length ∧ (ctl'.allocator i).alloc.Managed c ∧
      getItem ctl'.servers (ctl'.allocator i).server ≠ some i ∧
      ∃ j < ctl'.allocators.length, j ≠ i ∧ (ctl'.allocator j).server = (ctl'.allocator i).server ∧
        (ctl'.allocator j).alloc.Managed c := by
  obtain ⟨hi, hsi⟩ := h.servers_allocator server i hs
  obtain ⟨ctl₂, hdel, hnone, hlen, halloc, hman⟩ := delChannel_orphans hs hi hj hc hd
  have hi₂ : i < ctl₂.allocators.length := hlen ▸ hi
  have hserv : (ctl₂.allocator i).server = server := by
    rw [halloc, World.step_server cfg
      (show (ctl.allocator i).step cfg (.delChannel d) = some _ from rfl), hsi]
  refine ⟨⟨setItem ctl₂.servers server ctl₂.allocators.length,
      ctl₂.allocators ++ [((World.init server).addChannel cfg c).2]⟩, by simp only [run, step, hdel,
      Option.getD_some, Option.some_bind, xmlrpcAddChannel_of_unknown cfg c hnone], by simp; omega,
    ?_, ?_, ctl₂.allocators.length, by simp, by omega, ?_, ?_⟩
  · rw [allocator_push_lt _ _ _ hi₂, halloc]; exact hman
  · rw [allocator_push_lt _ _ _ hi₂, hserv]; simp; omega
  · rw [allocator_push_lt _ _ _ hi₂, hserv, allocator_push_self]
    exact World.step_server cfg (show (World.init server).step cfg (.addChannel c) = some _ from rfl)
  · rw [allocator_push_self]; exact World.managed_addChannel cfg _ c

/-- `#a` is added on freenode, and a channel `#b` the controller never had is deleted there, so
that adding `#a` again leaves two allocators of freenode that manage it. -/
theorem allocator_orphaned : ∃ ctl, Reachable Config.default ctl ∧
    ∃ i < ctl.allocators.length, ∃ c, (ctl.allocator i).alloc.Managed c ∧
      getItem ctl.servers (ctl.allocator i).server ≠ some i ∧
      ∃ j < ctl.allocators.length, j ≠ i ∧ (ctl.allocator j).server = (ctl.allocator i).server ∧
        (ctl.allocator j).alloc.Managed c := by
  obtain ⟨ctl, hctl⟩ : ∃ ctl, empty.run Config.default [.addChannel freenode "#a"] = some ctl :=
    ⟨_, rfl⟩
  have hok : (empty.run Config.default [.addChannel freenode "#a"]).map (fun ctl =>
      getItem ctl.servers freenode == some 0 && (ctl.allocator 0).alloc.channels.isEmpty &&
        decide ("#a" ∈ (ctl.allocator 0).alloc.newBotRequests)) = some true := by decide
  rw [hctl] at hok
  simp only [Option.map_some', Option.some.injEq, Bool.and_eq_true, beq_iff_eq, List.isEmpty_iff,
    decide_eq_true_eq] at hok
  have hr := Reachable.empty.run Config.default hctl
  obtain ⟨ctl', hr', hi, hm, hs, hdup⟩ := orphan_duplicated Config.default
    (reachable_sound Config.default hr) hok.1.1 hok.1.2 (.inr hok.2) (by decide : "#b" ≠ "#a")
  exact ⟨ctl', hr.run Config.default hr', 0, hi, "#a", hm, hs, hdup⟩

/-! ## Deleting a channel the server does not manage -/

/-- On a known server, `xmlrpc_delChannel` of a channel its allocator does not manage changes no
allocator; it deletes the server's entry exactly when the allocator has joined no channel. -/
theorem xmlrpcDelChannel_unmanaged {ctl : BotController} {server : String × Nat} {i : Nat}
    {c : String} (hs : getItem ctl.servers server = some i)
    (hc : ¬ (ctl.allocator i).alloc.Managed c) :
    ctl.xmlrpcDelChannel server c = some (if (ctl.allocator i).alloc.channels = [] then
      { ctl with servers := (delItem ctl.servers server).getD ctl.servers } else ctl) := by
  simp only [xmlrpcDelChannel, hs, Option.map_some', World.delChannel_of_not_managed hc,
    setAllocator_allocator]

/-- `xmlrpc_delChannel` of an unmanaged channel is not a no-op: on a server with no allocator it
raises `KeyError`, and on a server whose allocator has a channel waiting for a bot but none
joined, it deletes the server's entry. -/
theorem xmlrpcDelChannel_unmanaged_not_noop :
    (∃ ctl, Reachable Config.default ctl ∧ ∃ server c, getItem ctl.servers server = none ∧
      ctl.xmlrpcDelChannel server c = none) ∧
    ∃ ctl, Reachable Config.default ctl ∧ ∃ server c i, getItem ctl.servers server = some i ∧
      ¬ (ctl.allocator i).alloc.Managed c ∧ (∃ c', (ctl.allocator i).alloc.Managed c') ∧
      ∃ ctl', ctl.xmlrpcDelChannel server c = some ctl' ∧ getItem ctl'.servers server = none := by
  refine ⟨⟨empty, .empty, freenode, "#a", rfl, rfl⟩, ?_⟩
  obtain ⟨ctl, hctl⟩ : ∃ ctl, empty.run Config.default [.addChannel freenode "#a"] = some ctl :=
    ⟨_, rfl⟩
  have hok : (empty.run Config.default [.addChannel freenode "#a"]).map (fun ctl =>
      getItem ctl.servers freenode == some 0 && !decide ((ctl.allocator 0).alloc.Managed "#b") &&
        decide ((ctl.allocator 0).alloc.Managed "#a") &&
        (ctl.allocator 0).alloc.channels.isEmpty) = some true := by decide
  rw [hctl] at hok
  simp only [Option.map_some', Option.some.injEq, Bool.and_eq_true, beq_iff_eq,
    Bool.not_eq_true', decide_eq_false_iff_not, decide_eq_true_eq, List.isEmpty_iff] at hok
  obtain ⟨⟨⟨hs, hb⟩, ha⟩, hj⟩ := hok
  refine ⟨ctl, Reachable.empty.run Config.default hctl, freenode, "#b", 0, hs, hb, ⟨"#a", ha⟩, _,
    xmlrpcDelChannel_unmanaged hs hb, ?_⟩
  simp [hj]

end BotController

end BotDaemon
