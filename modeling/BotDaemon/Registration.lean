import BotDaemon.Allocator
import Mathlib.Data.List.Perm.Subperm
import Mathlib.Data.Nat.Digits

/-!
# A new bot: its nickname and its share of the queue

A bot is set up in two calls into its allocator. `connectionMade` names it by `allocateNick`, and
`signedOn` hands it to `botConnected`, which registers it and sends it its share of the channels
that wait for a new bot.

`allocateNick` tries `nickFormat % 1`, `nickFormat % 2`, … until a nickname is not a key of
`bots`. The model runs the loop with `len(bots) + 1` tries.

**Theorem (`allocateNick_least`).** For every `bots` and every `nickFormat` that is injective on
positive numbers, `allocateNick` returns `nickFormat % k` for the least positive `k` whose
nickname is not in `bots`, and `k ≤ len(bots) + 1`. The first `len(bots) + 1` nicknames are
distinct, and `bots` has at most `len(bots)` keys, so one of them is free (`exists_free_nick`).
The source's own format `"CIA-%d"` is injective (`nickFormat_default_injective`): the decimal
digits of `n` read back give `n`.

**Theorem (`botConnected_moves_prefix`).** For every allocator state and every `channelsPerBot`,
`botConnected` sends the bot one `JOIN` for each of the first `min(channelsPerBot,
len(newBotRequests))` queued channels, in queue order, and nothing to any other bot; it moves
those channels to the end of `existingBotRequests`, leaves the rest of the queue in order,
registers the bot under its nickname, and starts a new factory exactly when the rest is not empty.
The loop removes each channel while it walks a slice of the same list, and each `remove` takes
the head of what is left (`foldl_joinQueued`), duplicates included.
-/

namespace BotDaemon

namespace World

variable (cfg : Config)

/-! ## The least free nickname -/

theorem allocateNickFrom_eq_some {a : BotAllocator} {fuel s : Nat} {nick : String}
    (h : allocateNickFrom cfg a fuel s = some nick) :
    ∃ k, s ≤ k ∧ k < s + fuel ∧ nick = cfg.nickFormat k ∧ ¬ nickInUse a (cfg.nickFormat k) ∧
      ∀ j, s ≤ j → j < k → nickInUse a (cfg.nickFormat j) := by
  induction fuel generalizing s with
  | zero => cases h
  | succ fuel ih =>
    simp only [allocateNickFrom] at h
    split_ifs at h with hs
    · obtain ⟨k, hk, hkf, rfl, hfree, hless⟩ := ih h
      refine ⟨k, by omega, by omega, rfl, hfree, fun j hj hjk => ?_⟩
      rcases Nat.eq_or_lt_of_le hj with rfl | hj
      · exact hs
      · exact hless j hj hjk
    · cases h
      exact ⟨s, le_rfl, by omega, rfl, hs, fun j hj hjs => absurd hjs (by omega)⟩

theorem allocateNickFrom_isSome {a : BotAllocator} {fuel s k : Nat} (hk : s ≤ k)
    (hkf : k < s + fuel) (hfree : ¬ nickInUse a (cfg.nickFormat k)) :
    (allocateNickFrom cfg a fuel s).isSome := by
  induction fuel generalizing s with
  | zero => omega
  | succ fuel ih =>
    simp only [allocateNickFrom]
    split_ifs with hs
    · refine ih ?_ (by omega)
      rcases Nat.eq_or_lt_of_le hk with rfl | hk
      · exact absurd hs hfree
      · exact hk
    · rfl

/-- One of the first `len(bots) + 1` nicknames of an injective format is free. -/
theorem exists_free_nick (a : BotAllocator)
    (hinj : ∀ m n, 0 < m → 0 < n → cfg.nickFormat m = cfg.nickFormat n → m = n) :
    ∃ k, 1 ≤ k ∧ k < 1 + (a.bots.length + 1) ∧ ¬ nickInUse a (cfg.nickFormat k) := by
  by_contra hnone
  have hused : ∀ i ∈ List.range (a.bots.length + 1), cfg.nickFormat (i + 1) ∈ keys a.bots :=
    fun i hi => by
      by_contra hfree
      exact hnone ⟨i + 1, by omega, by simp at hi; omega, by simpa [nickInUse] using hfree⟩
  have hnodup : ((List.range (a.bots.length + 1)).map fun i => cfg.nickFormat (i + 1)).Nodup :=
    (List.nodup_range _).map_on fun i _ j _ h => by
      have := hinj (i + 1) (j + 1) (by omega) (by omega) h; omega
  have hle := (hnodup.subperm fun x hx => by
    obtain ⟨i, hi, rfl⟩ := List.mem_map.mp hx
    exact hused i hi).length_le
  simp only [List.length_map, List.length_range, keys] at hle
  omega

/-- `allocateNick` returns the nickname of the least positive number that no registered bot
has, and that number is at most `len(bots) + 1`. -/
theorem allocateNick_least (a : BotAllocator)
    (hinj : ∀ m n, 0 < m → 0 < n → cfg.nickFormat m = cfg.nickFormat n → m = n) :
    ∃ k, 0 < k ∧ k ≤ a.bots.length + 1 ∧ allocateNick cfg a = some (cfg.nickFormat k) ∧
      cfg.nickFormat k ∉ keys a.bots ∧ ∀ j, 0 < j → j < k → cfg.nickFormat j ∈ keys a.bots := by
  obtain ⟨k₀, hk₀, hk₀f, hfree₀⟩ := exists_free_nick cfg a hinj
  obtain ⟨nick, hnick⟩ := Option.isSome_iff_exists.mp
    (allocateNickFrom_isSome cfg hk₀ hk₀f hfree₀)
  obtain ⟨k, hk, hkf, rfl, hfree, hless⟩ := allocateNickFrom_eq_some cfg hnick
  refine ⟨k, hk, by omega, hnick, by simpa [nickInUse] using hfree, fun j hj hjk => ?_⟩
  simpa [nickInUse] using hless j hj hjk

/-! ## The source's nickname format -/

theorem foldl_toDigitsCore_ten (fuel n : Nat) (ds : List Char) (h : n < fuel) :
    ∃ xs, Nat.toDigitsCore 10 fuel n ds = xs ++ ds ∧
      xs.foldl (fun v c => 10 * v + (c.toNat - 48)) 0 = n := by
  have hdigit : ∀ m < 10, (Nat.digitChar m).toNat - 48 = m := by decide
  induction fuel generalizing n ds with
  | zero => omega
  | succ fuel ih =>
    simp only [Nat.toDigitsCore]
    split_ifs with hn
    · refine ⟨[Nat.digitChar (n % 10)], rfl, ?_⟩
      simp only [List.foldl_cons, List.foldl_nil, hdigit _ (Nat.mod_lt _ (by decide))]
      omega
    · obtain ⟨xs, hxs, hv⟩ := ih (n / 10) (Nat.digitChar (n % 10) :: ds) (by omega)
      refine ⟨xs ++ [Nat.digitChar (n % 10)], by simp [hxs], ?_⟩
      rw [List.foldl_append, hv, List.foldl_cons, List.foldl_nil,
        hdigit _ (Nat.mod_lt _ (by decide))]
      omega

/-- `"CIA-%d"` gives every number its own nickname. -/
theorem nickFormat_default_injective {m n : Nat}
    (h : Config.default.nickFormat m = Config.default.nickFormat n) : m = n := by
  have hd : Nat.toDigits 10 m = Nat.toDigits 10 n :=
    List.append_cancel_left (show "CIA-".data ++ Nat.toDigits 10 m =
      "CIA-".data ++ Nat.toDigits 10 n from congrArg String.data h)
  obtain ⟨xs, hxs, hm⟩ := foldl_toDigitsCore_ten (m + 1) m [] (by omega)
  obtain ⟨ys, hys, hn⟩ := foldl_toDigitsCore_ten (n + 1) n [] (by omega)
  rw [List.append_nil] at hxs hys
  rw [← hm, ← hn, ← hxs, ← hys]
  exact congrArg _ hd

/-- Two registered bots, `CIA-1` and `CIA-3`. -/
def gapAllocator : BotAllocator :=
  ⟨"irc.freenode.net", 6667, [("CIA-1", 0), ("CIA-3", 1)], [], [], []⟩

theorem allocateNick_least_default :
    (∀ m n, 0 < m → 0 < n → Config.default.nickFormat m = Config.default.nickFormat n → m = n) ∧
    ∃ k, 0 < k ∧ k ≤ gapAllocator.bots.length + 1 ∧
      allocateNick Config.default gapAllocator = some (Config.default.nickFormat k) ∧
      Config.default.nickFormat k ∉ keys gapAllocator.bots ∧
      ∀ j, 0 < j → j < k → Config.default.nickFormat j ∈ keys gapAllocator.bots :=
  ⟨fun _ _ _ _ h => nickFormat_default_injective h,
    allocateNick_least Config.default gapAllocator fun _ _ _ _ h => nickFormat_default_injective h⟩

/-! ## Handing the queue to a new bot -/

/-- `botConnected` on bot `p`: one `JOIN` for each of the first `channelsPerBot` queued channels,
in order, to `p` only; those channels move to `existingBotRequests`, the rest stays queued in
order, `p` is registered, and a factory is started exactly when channels are left. -/
theorem botConnected_moves_prefix (w : World) (p : Nat) (hp : p < w.protocols.length) :
    (w.alloc.newBotRequests.take cfg.channelsPerBot).length =
        min cfg.channelsPerBot w.alloc.newBotRequests.length ∧
      (w.botConnected cfg p).bot p = { w.bot p with
        joins := (w.bot p).joins ++ w.alloc.newBotRequests.take cfg.channelsPerBot } ∧
      (∀ q, q ≠ p → (w.botConnected cfg p).bot q = w.bot q) ∧
      (w.botConnected cfg p).protocols.length = w.protocols.length ∧
      (w.botConnected cfg p).alloc = { w.alloc with
        bots := setItem w.alloc.bots (w.bot p).nickname p
        existingBotRequests :=
          w.alloc.existingBotRequests ++ w.alloc.newBotRequests.take cfg.channelsPerBot
        newBotRequests := w.alloc.newBotRequests.drop cfg.channelsPerBot } ∧
      (w.botConnected cfg p).factories =
        if w.alloc.newBotRequests.drop cfg.channelsPerBot = [] then w.factories
        else w.factories ++ [⟨true, true⟩] :=
  ⟨List.length_take _ _, by rw [bot_botConnected, if_pos ⟨rfl, hp⟩],
    fun q hq => by rw [bot_botConnected, if_neg fun h => hq h.1],
    length_botConnected cfg w p, botConnected_alloc cfg w p, factories_botConnected cfg w p⟩

/-- A connected bot that has not signed on, and the queue `#a`, `#b`, `#a`. -/
def signingOn : World :=
  ⟨⟨"irc.freenode.net", 6667, [], [], [], ["#a", "#b", "#a"]⟩, [Bot.fresh "CIA-1" 0],
    [⟨true, false⟩]⟩

theorem botConnected_signingOn : 0 < signingOn.protocols.length ∧
    (signingOn.alloc.newBotRequests.take Config.default.channelsPerBot).length =
        min Config.default.channelsPerBot signingOn.alloc.newBotRequests.length ∧
      (signingOn.botConnected Config.default 0).bot 0 = { signingOn.bot 0 with
        joins := (signingOn.bot 0).joins ++
          signingOn.alloc.newBotRequests.take Config.default.channelsPerBot } ∧
      (∀ q, q ≠ 0 → (signingOn.botConnected Config.default 0).bot q = signingOn.bot q) ∧
      (signingOn.botConnected Config.default 0).protocols.length = signingOn.protocols.length ∧
      (signingOn.botConnected Config.default 0).alloc = { signingOn.alloc with
        bots := setItem signingOn.alloc.bots (signingOn.bot 0).nickname 0
        existingBotRequests := signingOn.alloc.existingBotRequests ++
          signingOn.alloc.newBotRequests.take Config.default.channelsPerBot
        newBotRequests := signingOn.alloc.newBotRequests.drop Config.default.channelsPerBot } ∧
      (signingOn.botConnected Config.default 0).factories =
        if signingOn.alloc.newBotRequests.drop Config.default.channelsPerBot = [] then
          signingOn.factories
        else signingOn.factories ++ [⟨true, true⟩] :=
  ⟨by decide, botConnected_moves_prefix Config.default signingOn 0 (by decide)⟩

end World

end BotDaemon
