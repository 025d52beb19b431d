import Mathlib.Data.List.Perm.Basic

/-!
# Results that may be errors

What a result that is no error says about the steps it was put together from.
-/

namespace TableAtlas

variable {ε α β γ δ : Type}

theorem bind_eq_ok_iff {x : Except ε α} {f : α → Except ε β} {b : β} :
    x >>= f = .ok b ↔ ∃ a, x = .ok a ∧ f a = .ok b := by
  cases x with
  | error e => simp [bind, Except.bind]
  | ok a => simp [bind, Except.bind]

theorem bind_eq_error_iff {x : Except ε α} {f : α → Except ε β} {e : ε} :
    x >>= f = .error e ↔ x = .error e ∨ ∃ a, x = .ok a ∧ f a = .error e := by
  cases x with
  | error e' => simp [bind, Except.bind]
  | ok a => simp [bind, Except.bind]

/-- The error of two steps is that of the first, or else that of the second. -/
theorem bind_eq_error_iff_or {x : Except ε α} {f : α → Except ε β} {first? second? : Option ε}
    (hx : ∀ e, x = .error e ↔ first? = some e)
    (hf : ∀ a, x = .ok a → ∀ e, f a = .error e ↔ second? = some e) (e : ε) :
    x >>= f = .error e ↔ first?.or second? = some e := by
  rw [bind_eq_error_iff, Option.or_eq_some_iff, hx]
  refine or_congr_right ?_
  cases hok : x with
  | error e' => simp [(hx e').1 hok]
  | ok a =>
    have hnone : first? = none := Option.eq_none_iff_forall_ne_some.2 fun e' he' => by
      cases hok.symm.trans ((hx e').2 he')
    simp [hnone, hf a hok]

theorem bind_congr_of_ok {x : Except ε α} {f g : α → Except ε β} (h : ∀ a, x = .ok a → f a = g a) :
    x >>= f = x >>= g := by
  cases hx : x with
  | error e => rfl
  | ok a => exact h a hx

theorem exists_eq_ok_iff {x : Except ε α} : (∃ a, x = .ok a) ↔ ∀ e, x ≠ .error e := by
  cases x <;> simp

theorem map_eq_ok_iff {x : Except ε α} {f : α → β} {b : β} :
    x.map f = .ok b ↔ ∃ a, x = .ok a ∧ f a = b := by
  cases x with
  | error e => simp [Except.map]
  | ok a => simp [Except.map]

theorem mapError_injective {f : ε → δ} (hf : Function.Injective f) :
    Function.Injective (Except.mapError f : Except ε α → Except δ α) := by
  intro x y h
  cases x with
  | error e =>
    cases y with
    | error e' => rw [hf (Except.error.inj h)]
    | ok b => cases h
  | ok a =>
    cases y with
    | error e' => cases h
    | ok b => rw [Except.ok.inj h]

theorem pure_eq_ok_iff {a b : α} : (pure a : Except ε α) = .ok b ↔ a = b := by
  simp [pure, Except.pure]

theorem pure_ne_error {a : α} {e : ε} : (pure a : Except ε α) ≠ .error e := by
  simp [pure, Except.pure]

theorem bind_pure_eq_error_iff {x : Except ε α} {f : α → β} {e : ε} :
    (x >>= fun a => pure (f a)) = .error e ↔ x = .error e := by
  rw [bind_eq_error_iff, or_iff_left]
  rintro ⟨a, -, hpure⟩
  exact pure_ne_error hpure

theorem throw_ne_ok {e : ε} {a : α} : (throw e : Except ε α) ≠ .ok a := by
  simp [throw, throwThe, MonadExceptOf.throw]

theorem toOption_eq_some_iff {x : Except ε α} {a : α} : x.toOption = some a ↔ x = .ok a := by
  cases x <;> simp [Except.toOption]

theorem eq_ok_of_toOption {x : Except ε α} {a : α} (h : x.toOption = some a) : x = .ok a :=
  toOption_eq_some_iff.1 h

theorem eq_ok_getD_of_isSome [Inhabited α] {x : Except ε α} (h : x.toOption.isSome) :
    x = .ok (x.toOption.getD default) := by
  cases x with
  | error e => simp [Except.toOption] at h
  | ok a => rfl

theorem mapM_eq_ok_iff {f : α → Except ε β} {as : List α} {bs : List β} :
    as.mapM f = .ok bs ↔ List.Forall₂ (fun a b => f a = .ok b) as bs := by
  induction as generalizing bs with
  | nil =>
    rw [List.mapM_nil, pure_eq_ok_iff]
    cases bs <;> simp
  | cons a as ih =>
    simp only [List.mapM_cons, bind_eq_ok_iff, pure_eq_ok_iff, ih]
    constructor
    · rintro ⟨b, hb, bs, hbs, rfl⟩
      exact .cons hb hbs
    · rintro (_ | ⟨hb, hbs⟩)
      exact ⟨_, hb, _, hbs, rfl⟩

theorem exists_mapM_iff {f : α → Except ε β} {as : List α} :
    (∃ bs, as.mapM f = .ok bs) ↔ ∀ a ∈ as, ∃ b, f a = .ok b := by
  simp only [mapM_eq_ok_iff]
  constructor
  · rintro ⟨bs, hbs⟩
    induction hbs with
    | nil => simp
    | cons hab _ ih => exact List.forall_mem_cons.2 ⟨⟨_, hab⟩, ih⟩
  · intro h
    induction as with
    | nil => exact ⟨[], .nil⟩
    | cons a as ih =>
      obtain ⟨⟨b, hb⟩, hrest⟩ := List.forall_mem_cons.1 h
      obtain ⟨bs, hbs⟩ := ih hrest
      exact ⟨b :: bs, .cons hb hbs⟩

theorem exists_mem_left_of_forall₂ {R : α → β → Prop} {as : List α} {bs : List β}
    (h : List.Forall₂ R as bs) {b : β} (hb : b ∈ bs) : ∃ a ∈ as, R a b := by
  induction h with
  | nil => exact absurd hb List.not_mem_nil
  | cons hab _ ih =>
    rcases List.mem_cons.1 hb with rfl | hb
    · exact ⟨_, List.mem_cons_self, hab⟩
    · obtain ⟨a, ha, hab⟩ := ih hb
      exact ⟨a, List.mem_cons_of_mem _ ha, hab⟩

theorem exists_mem_right_of_forall₂ {R : α → β → Prop} {as : List α} {bs : List β}
    (h : List.Forall₂ R as bs) {a : α} (ha : a ∈ as) : ∃ b ∈ bs, R a b :=
  exists_mem_left_of_forall₂ (R := flip R) h.flip ha

theorem exists_of_mem_mapM {f : α → Except ε β} {as : List α} {bs : List β} (h : as.mapM f = .ok bs)
    {b : β} (hb : b ∈ bs) : ∃ a ∈ as, f a = .ok b :=
  exists_mem_left_of_forall₂ (mapM_eq_ok_iff.1 h) hb

theorem exists_mem_of_mapM {f : α → Except ε β} {as : List α} {bs : List β} (h : as.mapM f = .ok bs)
    {a : α} (ha : a ∈ as) : ∃ b ∈ bs, f a = .ok b :=
  exists_mem_right_of_forall₂ (mapM_eq_ok_iff.1 h) ha

theorem exists_of_mapM_eq_error {f : α → Except ε β} {as : List α} {e : ε}
    (h : as.mapM f = .error e) : ∃ a ∈ as, f a = .error e := by
  induction as with
  | nil => cases h
  | cons a as ih =>
    rw [List.mapM_cons, bind_eq_error_iff] at h
    rcases h with hfirst | ⟨b, -, hrest⟩
    · exact ⟨a, List.mem_cons_self, hfirst⟩
    · obtain ⟨a', ha', herror⟩ := ih (bind_pure_eq_error_iff.1 hrest)
      exact ⟨a', List.mem_cons_of_mem _ ha', herror⟩

/-- A list is gone through up to its first member with an error. -/
theorem mapM_eq_error_iff {f : α → Except ε β} {fault? : α → Option ε}
    (h : ∀ a e, f a = .error e ↔ fault? a = some e) {as : List α} {e : ε} :
    as.mapM f = .error e ↔ as.findSome? fault? = some e := by
  induction as generalizing e with
  | nil => exact iff_of_false pure_ne_error (Option.some_ne_none e).symm
  | cons a as ih =>
    have hrest (b : β) (e : ε) :
        (as.mapM f >>= fun bs => pure (b :: bs)) = .error e ↔ as.findSome? fault? = some e := by
      rw [bind_pure_eq_error_iff, ih]
    rw [List.mapM_cons, bind_eq_error_iff_or (h a) fun b _ => hrest b, List.findSome?_cons]
    cases fault? a <;> rfl

theorem findSome?_flatMap_of_forall {as : List α} {f : α → List β} {p : β → Option γ}
    {g : α → Option γ} (h : ∀ a ∈ as, (f a).findSome? p = g a) :
    (as.flatMap f).findSome? p = as.findSome? g := by
  induction as with
  | nil => rfl
  | cons a as ih =>
    rw [List.flatMap_cons, List.findSome?_append, h a List.mem_cons_self, List.findSome?_cons,
      ih fun a ha => h a (List.mem_cons_of_mem _ ha)]
    cases g a <;> rfl

theorem mapM_cons_filterMap_id (f : α → Except ε (Option β)) (a : α) (as : List α) :
    ((a :: as).mapM f >>= fun bs => pure (bs.filterMap id)) = do
      let b ← f a
      let rest ← as.mapM f >>= fun bs => pure (bs.filterMap id)
      return b.toList ++ rest := by
  simp only [List.mapM_cons, bind_assoc, pure_bind]
  refine congrArg (f a >>= ·) (funext fun b => congrArg (as.mapM f >>= ·) (funext fun bs => ?_))
  cases b <;> rfl

theorem mapM_filter_filterMap_id {f : α → Except ε (Option β)} {p : α → Bool} {as : List α}
    (h : ∀ a ∈ as, p a = false → f a = .ok none) :
    ((as.filter p).mapM f >>= fun bs => pure (bs.filterMap id)) =
      as.mapM f >>= fun bs => pure (bs.filterMap id) := by
  induction as with
  | nil => rfl
  | cons a as ih =>
    obtain ⟨ha, has⟩ := List.forall_mem_cons.1 h
    rw [mapM_cons_filterMap_id, ← ih has]
    cases hp : p a with
    | false =>
      rw [List.filter_cons_of_neg (by simp [hp]), ha hp]
      exact (bind_pure _).symm
    | true => rw [List.filter_cons_of_pos hp, mapM_cons_filterMap_id]

theorem exists_mapM_of_perm {f : α → Except ε β} {as as' : List α} {bs : List β}
    (hperm : as'.Perm as) (h : as.mapM f = .ok bs) : ∃ bs', as'.mapM f = .ok bs' ∧ bs'.Perm bs := by
  obtain ⟨bs', hbs', hperm'⟩ := List.perm_comp_forall₂ hperm (mapM_eq_ok_iff.1 h)
  exact ⟨bs', mapM_eq_ok_iff.2 hbs', hperm'⟩

theorem map_eq_map_of_forall₂ {R : α → β → Prop} {f : α → γ} {g : β → γ} {as : List α} {bs : List β}
    (h : List.Forall₂ R as bs) (hfg : ∀ a b, R a b → f a = g b) : as.map f = bs.map g := by
  rw [← List.forall₂_eq_eq_eq, List.forall₂_map_left_iff, List.forall₂_map_right_iff]
  exact h.imp fun a b => hfg a b

theorem mapM_eq_mapM_of_forall₂ {R : α → β → Prop} {f : α → Except ε γ} {g : β → Except ε γ}
    {as : List α} {bs : List β} (h : List.Forall₂ R as bs) (hfg : ∀ a b, R a b → f a = g b) :
    as.mapM f = bs.mapM g := by
  induction h with
  | nil => rfl
  | cons hab _ ih => rw [List.mapM_cons, List.mapM_cons, hfg _ _ hab, ih]

theorem filterMap_eq_filterMap_of_forall₂ {R : α → β → Prop} {f : α → Option γ} {g : β → Option γ}
    {as : List α} {bs : List β} (h : List.Forall₂ R as bs) (hfg : ∀ a b, R a b → f a = g b) :
    as.filterMap f = bs.filterMap g := by
  induction h with
  | nil => rfl
  | cons hab _ ih => rw [List.filterMap_cons, List.filterMap_cons, hfg _ _ hab, ih]

theorem length_filterMap_of_forall₂ {R : α → β → Prop} {f : α → Option γ} {g : β → Option δ}
    {as : List α} {bs : List β} (h : List.Forall₂ R as bs)
    (hfg : ∀ a b, R a b → (f a).isSome = (g b).isSome) :
    (as.filterMap f).length = (bs.filterMap g).length := by
  rw [List.length_filterMap_eq_countP, List.length_filterMap_eq_countP]
  induction h with
  | nil => rfl
  | cons hab _ ih => rw [List.countP_cons, List.countP_cons, ih, hfg _ _ hab]

theorem sublist_filterMap_of_forall₂ {R : α → β → Prop} {f : α → Option γ} {g : β → Option γ}
    {as : List α} {bs : List β} (h : List.Forall₂ R as bs)
    (hfg : ∀ a b c, R a b → g b = some c → f a = some c) :
    (bs.filterMap g).Sublist (as.filterMap f) := by
  induction h with
  | nil => exact .slnil
  | @cons a b as bs hab _ ih =>
    cases hb : g b with
    | none =>
      rw [List.filterMap_cons_none hb]
      exact ih.trans ((List.sublist_cons_self a as).filterMap f)
    | some c =>
      rw [List.filterMap_cons_some hb, List.filterMap_cons_some (hfg a b c hab hb)]
      exact ih.cons_cons c

/-! ## Two results side by side -/

/-- Two results are the same error, or values that are related. -/
inductive Agree (R : α → β → Prop) : Except ε α → Except ε β → Prop
  | error (e : ε) : Agree R (.error e) (.error e)
  | ok {a : α} {b : β} (h : R a b) : Agree R (.ok a) (.ok b)

theorem Agree.refl {R : α → α → Prop} (hR : ∀ a, R a a) : ∀ x : Except ε α, Agree R x x
  | .error e => .error e
  | .ok a => .ok (hR a)

/-- Steps that agree one by one agree together. -/
theorem Agree.bind {R : α → β → Prop} {Q : γ → δ → Prop} {x : Except ε α} {y : Except ε β}
    {f : α → Except ε γ} {g : β → Except ε δ} (h : Agree R x y)
    (hfg : ∀ a b, R a b → Agree Q (f a) (g b)) : Agree Q (x >>= f) (y >>= g) := by
  cases h with
  | error e => exact .error e
  | ok hab => exact hfg _ _ hab

theorem Agree.mapM {R : α → β → Prop} {Q : γ → δ → Prop} {f : α → Except ε γ} {g : β → Except ε δ}
    {as : List α} {bs : List β} (h : List.Forall₂ R as bs)
    (hfg : ∀ a b, R a b → Agree Q (f a) (g b)) :
    Agree (List.Forall₂ Q) (as.mapM f) (bs.mapM g) := by
  induction h with
  | nil => exact .ok .nil
  | cons hab _ ih =>
    rw [List.mapM_cons, List.mapM_cons]
    refine (hfg _ _ hab).bind fun c d hcd => ih.bind fun cs ds hcds => ?_
    exact .ok (.cons hcd hcds)

end TableAtlas
