import TriggerLatch.Feed

/-!
# Watching a feed

Someone watches a feed: shows its value, remembers the state of the feed that this was, and shows
again when the feed has another (`Feed.Watched`).  Values are published meanwhile, before, between
and during the shows, and what happens is kept as a row of events.

**Every show is of the value that the feed has at that moment** (`Feed.Watched.current`), **between
two shows the feed has changed** (`Feed.Watched.news`), so there is at most one show more than there
are changes (`Feed.Watched.length_shows_le`), **and where there is no news, the value of the feed
was shown last** (`Feed.Watched.getLast?_shows`).
-/

namespace TriggerLatch

/-- What happens to a feed that is watched. -/
inductive FeedEvent where
  /-- A value is published, which may be the one that the feed holds. -/
  | published (value : Bool)
  /-- A show starts, and this is the value that is taken for it. -/
  | shown (value : Bool)
  deriving DecidableEq, Repr

namespace FeedEvent

/-- The value of a feed after these events; at first it is `v`. -/
def valueAfter (v : Bool) : List FeedEvent → Bool
  | [] => v
  | .published w :: es => valueAfter w es
  | .shown _ :: es => valueAfter v es

/-- How many of the values that are published change the feed; at first its value is `v`. -/
def changes (v : Bool) : List FeedEvent → Nat
  | [] => 0
  | .published w :: es => (if v = w then 0 else 1) + changes w es
  | .shown _ :: es => changes v es

/-- The values that are shown. -/
def shows : List FeedEvent → List Bool
  | [] => []
  | .published _ :: es => shows es
  | .shown w :: es => w :: shows es

theorem valueAfter_append (v : Bool) (es es' : List FeedEvent) :
    valueAfter v (es ++ es') = valueAfter (valueAfter v es) es' := by
  induction es generalizing v with
  | nil => rfl
  | cons e es ih => cases e <;> exact ih _

theorem changes_append (v : Bool) (es es' : List FeedEvent) :
    changes v (es ++ es') = changes v es + changes (valueAfter v es) es' := by
  induction es generalizing v with
  | nil => exact (Nat.zero_add _).symm
  | cons e es ih =>
    cases e with
    | published w => simp only [List.cons_append, changes, valueAfter, ih, Nat.add_assoc]
    | shown w => exact ih v

theorem shows_append (es es' : List FeedEvent) : shows (es ++ es') = shows es ++ shows es' := by
  induction es with
  | nil => rfl
  | cons e es ih => cases e <;> simp [shows, ih]

theorem shows_concat_published (es : List FeedEvent) (b : Bool) :
    shows (es ++ [.published b]) = shows es := by
  rw [shows_append, shows, shows, List.append_nil]

theorem shows_concat_shown (es : List FeedEvent) (w : Bool) :
    shows (es ++ [.shown w]) = shows es ++ [w] := by
  rw [shows_append, shows, shows]

theorem shows_published (bs : List Bool) : shows (bs.map .published) = [] := by
  induction bs with
  | nil => rfl
  | cons b bs ih => exact ih

theorem split_concat {es before after : List FeedEvent} {x : FeedEvent} {w : Bool}
    (h : es ++ [x] = before ++ .shown w :: after) :
    (x = .shown w ∧ es = before ∧ after = []) ∨
      ∃ after', after = after' ++ [x] ∧ es = before ++ .shown w :: after' := by
  rcases List.append_eq_append_iff.1 h with ⟨rest, rfl, hx⟩ | ⟨rest, rfl, hrest⟩
  · cases rest with
    | nil =>
      obtain ⟨rfl, rfl⟩ := List.cons.inj hx
      exact .inl ⟨rfl, (List.append_nil es).symm, rfl⟩
    | cons y ys => simp at hx
  · cases rest with
    | nil =>
      obtain ⟨rfl, rfl⟩ := List.cons.inj hrest
      exact .inl ⟨rfl, List.append_nil before, rfl⟩
    | cons y ys =>
      obtain ⟨rfl, rfl⟩ := List.cons.inj hrest
      exact .inr ⟨ys, rfl, rfl⟩

end FeedEvent

namespace Feed

open FeedEvent

/-- **Someone watches a feed that was `f₀`**: these events have happened, the feed is now `f`, and
this state of it was shown last. -/
inductive Watched (f₀ : Feed) : List FeedEvent → Feed → Option Nat → Prop
  | start : Watched f₀ [] f₀ none
  | publish {es : List FeedEvent} {f : Feed} {seen : Option Nat} (h : Watched f₀ es f seen)
      (b : Bool) : Watched f₀ (es ++ [.published b]) (f.publish b) seen
  | look {es : List FeedEvent} {f : Feed} {seen : Option Nat} (h : Watched f₀ es f seen)
      (hnews : seen ≠ some f.version) : Watched f₀ (es ++ [.shown f.value]) f (some f.version)

variable {f₀ f : Feed} {es : List FeedEvent} {seen : Option Nat} {m : Nat}

theorem publishAll_same {bs : List Bool} (h : ∀ b ∈ bs, b = f.value) : f.publishAll bs = f := by
  induction bs with
  | nil => rfl
  | cons b bs ih =>
    obtain rfl : b = f.value := h b List.mem_cons_self
    have hsame : f.publish f.value = f := if_pos rfl
    rw [Feed.publishAll, List.foldl_cons, hsame]
    exact ih fun b' hb' => h b' (List.mem_cons_of_mem _ hb')

theorem Watched.publishAll (h : f₀.Watched es f seen) (bs : List Bool) :
    f₀.Watched (es ++ bs.map .published) (f.publishAll bs) seen := by
  induction bs generalizing es f with
  | nil =>
    rw [List.map_nil, List.append_nil]
    exact h
  | cons b bs ih =>
    have hnext := ih (h.publish b)
    rw [List.append_assoc] at hnext
    exact hnext

/-! ### The feed -/

theorem Watched.value (h : f₀.Watched es f seen) : f.value = valueAfter f₀.value es := by
  induction h with
  | start => rfl
  | publish _ b => rw [publish_value, valueAfter_append, valueAfter, valueAfter]
  | look _ _ ih => rw [valueAfter_append, valueAfter, valueAfter, ih]

theorem Watched.version (h : f₀.Watched es f seen) :
    f.version = f₀.version + changes f₀.value es := by
  induction h with
  | start => rfl
  | publish h b ih =>
    rw [version_publish, changes_append, ← h.value, ih]
    simp only [changes]
    split <;> omega
  | look _ _ ih => rw [changes_append, changes, changes, Nat.add_zero, ih]

/-! ### What was seen -/

theorem Watched.seen_le (h : f₀.Watched es f seen) (hm : seen = some m) : m ≤ f.version := by
  induction h with
  | start => cases hm
  | publish _ b ih =>
    have hle := ih hm
    rw [version_publish]
    split <;> omega
  | look =>
    cases hm
    exact Nat.le_refl _

theorem Watched.shows_of_unseen (h : f₀.Watched es f seen) (hs : seen = none) : shows es = [] := by
  induction h with
  | start => rfl
  | publish _ b ih => rw [shows_concat_published, ih hs]
  | look => cases hs

theorem Watched.seen_lt (h : f₀.Watched es f seen) (hnews : seen ≠ some f.version)
    (hm : seen = some m) : m < f.version :=
  Nat.lt_of_le_of_ne (h.seen_le hm) fun heq => hnews (heq ▸ hm)

/-- **A show is a look at the feed as it was then**, which had news, and the state that it has seen
is not forgotten. -/
theorem Watched.exists_look (h : f₀.Watched es f seen) {before after : List FeedEvent} {w : Bool}
    (hes : es = before ++ .shown w :: after) :
    ∃ f' seen', f₀.Watched before f' seen' ∧ seen' ≠ some f'.version ∧ w = f'.value ∧
      ∃ m, seen = some m ∧ f'.version ≤ m := by
  induction h generalizing after with
  | start => simp at hes
  | publish _ b ih =>
    rcases split_concat hes with ⟨hx, -, -⟩ | ⟨after', -, hes'⟩
    · cases hx
    · exact ih hes'
  | @look es f seen h hnews ih =>
    rcases split_concat hes with ⟨hx, rfl, -⟩ | ⟨after', -, hes'⟩
    · cases hx
      exact ⟨f, seen, h, hnews, rfl, _, rfl, Nat.le_refl _⟩
    · obtain ⟨f', seen', h', hnews', hw, m, hm, hle⟩ := ih hes'
      exact ⟨f', seen', h', hnews', hw, _, rfl, Nat.le_trans hle (h.seen_le hm)⟩

/-! ### What is shown -/

/-- **A show is of the value that the feed has at that moment.** -/
theorem Watched.current (h : f₀.Watched es f seen) {before after : List FeedEvent} {w : Bool}
    (hes : es = before ++ .shown w :: after) : w = valueAfter f₀.value before := by
  obtain ⟨f', seen', h', -, rfl, -⟩ := h.exists_look hes
  exact h'.value

/-- **Between two shows the feed has changed.** -/
theorem Watched.news (h : f₀.Watched es f seen) {before mid after : List FeedEvent} {w u : Bool}
    (hes : es = (before ++ .shown w :: mid) ++ .shown u :: after) : 0 < changes w mid := by
  obtain ⟨f', seen', h', hnews, -⟩ := h.exists_look hes
  obtain ⟨f'', seen'', h'', -, rfl, m, hm, hle⟩ := h'.exists_look rfl
  -- the later show has news, so what the earlier one has seen is past by then
  have hlt := h'.seen_lt hnews hm
  have hversion := h'.version
  rw [changes_append, ← h''.value, changes, ← Nat.add_assoc, ← h''.version] at hversion
  omega

/-- Each show has seen a state of its own, and they are counted from the first one. -/
theorem Watched.length_shows_of_seen (h : f₀.Watched es f seen) (hm : seen = some m) :
    (shows es).length + f₀.version ≤ 1 + m := by
  induction h generalizing m with
  | start => cases hm
  | publish _ b ih =>
    rw [shows_concat_published]
    exact ih hm
  | @look es f seen h hnews ih =>
    obtain rfl := Option.some.inj hm
    rw [shows_concat_shown, List.length_append, List.length_singleton]
    cases hs : seen with
    | none =>
      have hversion := h.version
      rw [h.shows_of_unseen hs, List.length_nil]
      omega
    | some k =>
      have hcount := ih hs
      have hlt := h.seen_lt hnews hs
      omega

/-- **There is at most one show more than there are changes.** -/
theorem Watched.length_shows_le (h : f₀.Watched es f seen) :
    (shows es).length ≤ 1 + changes f₀.value es := by
  cases hs : seen with
  | none =>
    rw [h.shows_of_unseen hs]
    exact Nat.zero_le _
  | some m =>
    have hcount := h.length_shows_of_seen hs
    have hle := h.seen_le hs
    have hversion := h.version
    omega

/-- **Where there is no news, the value of the feed was shown last.** -/
theorem Watched.getLast?_shows (h : f₀.Watched es f seen) (hs : seen = some f.version) :
    (shows es).getLast? = some f.value := by
  induction h with
  | start => cases hs
  | publish h b ih =>
    rw [version_publish] at hs
    rw [shows_concat_published, publish_value]
    split at hs
    · next hb => rw [ih hs, hb]
    · -- a state that is new has not been seen
      exact absurd (h.seen_le hs) (Nat.not_succ_le_self _)
  | look h hnews ih =>
    rw [shows_concat_shown]
    exact List.getLast?_concat

end Feed

end TriggerLatch
