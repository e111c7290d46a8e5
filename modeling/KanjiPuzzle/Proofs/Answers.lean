import KanjiPuzzle.Attempt

set_option autoImplicit false

/- Operations that answer. An operation over a list answers where it answers for every member, and what one step keeps
   while it answers, all the steps keep. -/
namespace KanjiPuzzle.Attempt

theorem bind_ok {ε α β : Type} (x : Except ε α) (f : α → Except ε β) (b : β) (completed : (x >>= f) = .ok b) :
    ∃ a, x = .ok a ∧ f a = .ok b := by
  cases x with
  | error e => cases completed
  | ok a => exact ⟨a, rfl, completed⟩

theorem bind_error_iff {ε α β : Type} (x : Except ε α) (f : α → Except ε β) (e : ε) :
    (x >>= f) = .error e ↔ x = .error e ∨ ∃ a, x = .ok a ∧ f a = .error e := by
  cases x <;> simp [bind, Except.bind]

variable {α β γ σ τ : Type}

theorem answers_bind (P : α → Prop) (Q : β → Prop) (x : Attempt α) (f : α → Attempt β)
    (first : ∃ a, x = .ok a ∧ P a) (second : ∀ a, P a → ∃ b, f a = .ok b ∧ Q b) :
    ∃ b, (x >>= f) = .ok b ∧ Q b := by
  obtain ⟨a, answered, holds⟩ := first
  obtain ⟨b, finished, wanted⟩ := second a holds
  exact ⟨b, answered ▸ finished, wanted⟩

theorem verdict_of_answers (x : Attempt Bool) (answers : ∃ verdict, x = .ok verdict) :
    x = .ok (x.toOption.getD false) := by
  obtain ⟨verdict, rfl⟩ := answers
  rfl

theorem select_answers (test : α → Attempt Bool) (as : List α) (answers : ∀ a ∈ as, ∃ verdict, test a = .ok verdict) :
    ∃ kept, select test as = .ok kept ∧ ∀ a ∈ kept, a ∈ as := by
  have total (a : α) (member : a ∈ as) := verdict_of_answers (test a) (answers a member)
  exact ⟨_, select_of_total test _ as total, fun a kept => (List.mem_filter.mp kept).1⟩

theorem first_answers (test : α → Attempt Bool) (as : List α) (answers : ∀ a ∈ as, ∃ verdict, test a = .ok verdict) :
    ∃ found, first? test as = .ok found ∧ ∀ a, found = some a → a ∈ as ∧ test a = .ok true := by
  induction as with
  | nil => exact ⟨none, rfl, by simp⟩
  | cons a rest ih =>
      obtain ⟨verdict, answered⟩ := answers a List.mem_cons_self
      rw [first?, answered]
      cases verdict with
      | true =>
          refine ⟨some a, rfl, fun b same => ?_⟩
          cases same
          exact ⟨List.mem_cons_self, answered⟩
      | false =>
          obtain ⟨found, answer, member⟩ := ih fun b inside => answers b (List.mem_cons_of_mem a inside)
          exact ⟨found, answer, fun b same => (member b same).imp_left (List.mem_cons_of_mem a)⟩

theorem exists_answers (test : α → Attempt Bool) (as : List α)
    (answers : ∀ a ∈ as, ∃ verdict, test a = .ok verdict) :
    ∃ verdict, exists? test as = .ok verdict ∧ (verdict = true ↔ ∃ a ∈ as, test a = .ok true) := by
  have total (a : α) (member : a ∈ as) := verdict_of_answers (test a) (answers a member)
  refine ⟨_, exists_of_total test _ as total, List.any_eq_true.trans (exists_congr fun a => ?_)⟩
  refine and_congr_right fun member => ?_
  obtain ⟨verdict, judged⟩ := answers a member
  simp [judged, Except.toOption]

theorem each_answers (P : β → Prop) (f : α → Attempt β) (as : List α) (answers : ∀ a ∈ as, ∃ b, f a = .ok b ∧ P b) :
    ∃ bs, each f as = .ok bs ∧ ∀ b ∈ bs, P b := by
  induction as with
  | nil => exact ⟨[], rfl, by simp⟩
  | cons a rest ih =>
      obtain ⟨b, answered, holds⟩ := answers a List.mem_cons_self
      obtain ⟨bs, later, rest_hold⟩ := ih fun c inside => answers c (List.mem_cons_of_mem a inside)
      rw [each, answered, later]
      exact ⟨b :: bs, rfl, List.forall_mem_cons.mpr ⟨holds, rest_hold⟩⟩

theorem each_ok (f : α → Attempt β) (as : List α) (bs : List β) (answered : each f as = .ok bs) :
    ∀ a ∈ as, ∃ b, f a = .ok b := by
  induction as generalizing bs with
  | nil => simp
  | cons a rest ih =>
      obtain ⟨b, here, answered⟩ := bind_ok _ _ _ answered
      obtain ⟨later, there, _⟩ := bind_ok _ _ _ answered
      exact List.forall_mem_cons.mpr ⟨⟨b, here⟩, ih later there⟩

theorem each_error_iff (f : α → Attempt β) (as : List α) (cause : Fault) :
    each f as = .error cause ↔
      ∃ before a after, as = before ++ a :: after ∧ (∀ b ∈ before, ∃ answer, f b = .ok answer) ∧ f a = .error cause := by
  induction as with
  | nil => simp [each]
  | cons first rest ih =>
      simp only [each, bind_error_iff, reduceCtorEq, and_false, exists_false, or_false, ih]
      constructor
      · rintro (fails | ⟨answer, here, before, a, after, rfl, answers, fails⟩)
        · exact ⟨[], first, rest, rfl, by simp, fails⟩
        · exact ⟨first :: before, a, after, rfl, List.forall_mem_cons.mpr ⟨⟨answer, here⟩, answers⟩, fails⟩
      · rintro ⟨before, a, after, listed, answers, fails⟩
        cases before with
        | nil =>
            cases listed
            exact .inl fails
        | cons b earlier =>
            cases listed
            obtain ⟨⟨answer, here⟩, answers⟩ := List.forall_mem_cons.mp answers
            exact .inr ⟨answer, here, earlier, a, after, rfl, answers, fails⟩

theorem each_mem (f : α → Attempt β) (as : List α) (bs : List β) (answered : each f as = .ok bs) (b : β)
    (member : b ∈ bs) : ∃ a ∈ as, f a = .ok b := by
  induction as generalizing bs with
  | nil =>
      cases answered
      cases member
  | cons a rest ih =>
      obtain ⟨first, here, answered⟩ := bind_ok _ _ _ answered
      obtain ⟨later, there, answered⟩ := bind_ok _ _ _ answered
      cases answered
      rcases List.mem_cons.mp member with rfl | inside
      · exact ⟨a, List.mem_cons_self, here⟩
      · obtain ⟨source, listed, answer⟩ := ih later there inside
        exact ⟨source, List.mem_cons_of_mem a listed, answer⟩

theorem mem_each (f : α → Attempt β) (as : List α) (bs : List β) (answered : each f as = .ok bs) (a : α) (b : β)
    (member : a ∈ as) (answer : f a = .ok b) : b ∈ bs := by
  induction as generalizing bs with
  | nil => cases member
  | cons first rest ih =>
      obtain ⟨image, here, answered⟩ := bind_ok _ _ _ answered
      obtain ⟨later, there, answered⟩ := bind_ok _ _ _ answered
      cases answered
      rcases List.mem_cons.mp member with rfl | inside
      · cases here.symm.trans answer
        exact List.mem_cons_self
      · exact List.mem_cons_of_mem image (ih later there inside)

theorem mem_keyed_iff (f : α → Attempt β) (as : List α) (keyed : List (β × α))
    (answered : each (fun a => do .ok (← f a, a)) as = .ok keyed) (b : β) (a : α) :
    (b, a) ∈ keyed ↔ a ∈ as ∧ f a = .ok b := by
  constructor
  · intro member
    obtain ⟨asked, listed, told⟩ := each_mem _ _ _ answered (b, a) member
    obtain ⟨answer, here, told⟩ := bind_ok _ _ _ told
    cases told
    exact ⟨listed, here⟩
  · intro found
    obtain ⟨listed, here⟩ := found
    refine mem_each _ _ _ answered a (b, a) listed ?_
    rw [here]
    rfl

theorem each_image (f : α → Attempt β) (source : β → α) (tells : ∀ a b, f a = .ok b → source b = a) (as : List α)
    (bs : List β) (answered : each f as = .ok bs) : bs.map source = as := by
  induction as generalizing bs with
  | nil =>
      cases answered
      rfl
  | cons a rest ih =>
      obtain ⟨first, here, answered⟩ := bind_ok _ _ _ answered
      obtain ⟨later, there, answered⟩ := bind_ok _ _ _ answered
      cases answered
      rw [List.map_cons, tells a first here, ih later there]

theorem each_found (f : α → Attempt (Option β)) (source : β → α) (tells : ∀ a b, f a = .ok (some b) → source b = a)
    (as : List α) (found : List (Option β)) (answered : each f as = .ok found) :
    ((found.filterMap id).map source).Sublist as := by
  induction as generalizing found with
  | nil =>
      cases answered
      exact .slnil
  | cons a rest ih =>
      obtain ⟨first, here, answered⟩ := bind_ok _ _ _ answered
      obtain ⟨later, there, answered⟩ := bind_ok _ _ _ answered
      cases answered
      cases first with
      | none => exact (ih later there).cons a
      | some b => exact tells a b here ▸ (ih later there).cons_cons _

theorem select_ok (test : α → Attempt Bool) (as kept : List α) (answered : select test as = .ok kept) (a : α) :
    a ∈ kept ↔ a ∈ as ∧ test a = .ok true := by
  induction as generalizing kept with
  | nil =>
      cases answered
      simp
  | cons b rest ih =>
      obtain ⟨keep, here, answered⟩ := bind_ok _ _ _ answered
      obtain ⟨later, there, answered⟩ := bind_ok _ _ _ answered
      cases answered
      have member := ih later there
      cases keep with
      | true =>
          simp only [if_true, List.mem_cons, member]
          constructor
          · rintro (rfl | ⟨inside, passed⟩)
            · exact ⟨.inl rfl, here⟩
            · exact ⟨.inr inside, passed⟩
          · exact fun ⟨inside, passed⟩ => inside.imp_right fun inside => ⟨inside, passed⟩
      | false =>
          have other (passed : test a = .ok true) : a ≠ b := fun same => by simp [same, here] at passed
          simp only [Bool.false_eq_true, if_false, List.mem_cons, member]
          exact ⟨fun ⟨inside, passed⟩ => ⟨.inr inside, passed⟩,
            fun ⟨inside, passed⟩ => ⟨inside.resolve_left (other passed), passed⟩⟩

theorem select_sublist (test : α → Attempt Bool) (as kept : List α) (answered : select test as = .ok kept) :
    kept.Sublist as := by
  induction as generalizing kept with
  | nil =>
      cases answered
      exact .slnil
  | cons a rest ih =>
      obtain ⟨keep, here, answered⟩ := bind_ok _ _ _ answered
      obtain ⟨later, there, answered⟩ := bind_ok _ _ _ answered
      cases answered
      cases keep with
      | true => exact (ih later there).cons_cons a
      | false => exact (ih later there).cons a

theorem first_ok (test : α → Attempt Bool) (as : List α) (a : α) (answered : first? test as = .ok (some a)) :
    a ∈ as ∧ test a = .ok true := by
  induction as with
  | nil => cases answered
  | cons b rest ih =>
      obtain ⟨verdict, here, answered⟩ := bind_ok _ _ _ answered
      cases verdict with
      | true =>
          cases answered
          exact ⟨List.mem_cons_self, here⟩
      | false => exact (ih answered).imp_left (List.mem_cons_of_mem b)

theorem first_passes (R : α → α → Prop) (test : α → Attempt Bool) (as : List α) (ordered : as.Pairwise R)
    (found : Option α) (answered : first? test as = .ok found) (a : α) (member : a ∈ as) (passes : test a = .ok true) :
    ∃ b, found = some b ∧ (b = a ∨ R b a) := by
  induction as with
  | nil => cases member
  | cons b rest ih =>
      obtain ⟨before, later⟩ := List.pairwise_cons.mp ordered
      obtain ⟨verdict, here, answered⟩ := bind_ok _ _ _ answered
      cases verdict with
      | true =>
          cases answered
          exact ⟨b, rfl, (List.mem_cons.mp member).imp Eq.symm (before a)⟩
      | false =>
          have other : a ≠ b := fun same => by simp [← same, passes] at here
          exact ih later answered ((List.mem_cons.mp member).resolve_left other)

theorem through_keeps (P : σ → Prop) (f : σ → α → Attempt σ) (as : List α)
    (step : ∀ s next, ∀ a ∈ as, P s → f s a = .ok next → P next) (s final : σ) (start : P s)
    (answered : through f s as = .ok final) : P final := by
  induction as generalizing s with
  | nil =>
      cases answered
      exact start
  | cons a rest ih =>
      obtain ⟨next, here, later⟩ := bind_ok _ _ _ answered
      exact ih (fun s next b inside => step s next b (List.mem_cons_of_mem a inside)) next
        (step s next a List.mem_cons_self start here) later

theorem through_answers (P : σ → Prop) (f : σ → α → Attempt σ) (as : List α) (s : σ) (start : P s)
    (step : ∀ s, ∀ a ∈ as, P s → ∃ next, f s a = .ok next ∧ P next) :
    ∃ final, through f s as = .ok final ∧ P final := by
  induction as generalizing s with
  | nil => exact ⟨s, rfl, start⟩
  | cons a rest ih =>
      obtain ⟨next, answered, kept⟩ := step s a List.mem_cons_self start
      obtain ⟨final, later, holds⟩ := ih next kept fun s b inside => step s b (List.mem_cons_of_mem a inside)
      rw [through, answered]
      exact ⟨final, later, holds⟩

theorem through_append (f : σ → α → Attempt σ) (s : σ) (as bs : List α) :
    through f s (as ++ bs) = (through f s as >>= fun middle => through f middle bs) := by
  induction as generalizing s with
  | nil => rfl
  | cons a rest ih =>
      rw [List.cons_append, through, through]
      cases f s a with
      | error cause => rfl
      | ok next => exact ih next

-- To ask on the way is to ask for all of them first.
theorem through_each (f : σ → β → Attempt σ) (g : α → Attempt β) (as : List α) (s final : σ)
    (answered : through (fun s a => g a >>= f s) s as = .ok final) :
    ∃ bs, each g as = .ok bs ∧ through f s bs = .ok final := by
  induction as generalizing s with
  | nil => exact ⟨[], rfl, answered⟩
  | cons a rest ih =>
      obtain ⟨next, here, answered⟩ := bind_ok _ _ _ answered
      obtain ⟨b, image, step⟩ := bind_ok _ _ _ here
      obtain ⟨bs, images, later⟩ := ih next answered
      refine ⟨b :: bs, ?_, ?_⟩
      · rw [each, image, images]
        rfl
      · rw [through, step]
        exact later

theorem through_congr (f g : σ → α → Attempt σ) (as : List α) (same : ∀ s, ∀ a ∈ as, f s a = g s a) (s : σ) :
    through f s as = through g s as := by
  induction as generalizing s with
  | nil => rfl
  | cons a rest ih =>
      rw [through, through, same s a List.mem_cons_self]
      refine congrArg (g s a >>= ·) (funext fun next => ?_)
      exact ih (fun s b inside => same s b (List.mem_cons_of_mem a inside)) next

theorem each_total (f : α → Attempt β) (g : α → β) (as : List α) (total : ∀ a ∈ as, f a = .ok (g a)) :
    each f as = .ok (as.map g) := by
  induction as with
  | nil => rfl
  | cons a rest ih =>
      rw [each, total a List.mem_cons_self, ih fun b member => total b (List.mem_cons_of_mem a member)]
      rfl

theorem each_map (f : β → Attempt γ) (g : α → β) (as : List α) : each f (as.map g) = each (fun a => f (g a)) as := by
  induction as with
  | nil => rfl
  | cons a rest ih => rw [List.map_cons, each, each, ih]

theorem each_each (f : α → Attempt β) (g : α → Attempt γ) (h : β → Attempt γ) (as : List α) (bs : List β)
    (answered : each f as = .ok bs) (same : ∀ a ∈ as, ∀ b, f a = .ok b → g a = h b) : each g as = each h bs := by
  induction as generalizing bs with
  | nil =>
      cases answered
      rfl
  | cons a rest ih =>
      obtain ⟨b, here, answered⟩ := bind_ok _ _ _ answered
      obtain ⟨later, there, answered⟩ := bind_ok _ _ _ answered
      cases answered
      rw [each, each, same a List.mem_cons_self b here,
        ih later there fun c member => same c (List.mem_cons_of_mem a member)]

theorem each_append (f : α → Attempt β) (as cs : List α) (bs ds : List β) (first : each f as = .ok bs)
    (second : each f cs = .ok ds) : each f (as ++ cs) = .ok (bs ++ ds) := by
  induction as generalizing bs with
  | nil =>
      cases first
      exact second
  | cons a rest ih =>
      obtain ⟨b, here, first⟩ := bind_ok _ _ _ first
      obtain ⟨later, there, first⟩ := bind_ok _ _ _ first
      cases first
      rw [List.cons_append, each, here, ih later there]
      rfl

theorem each_reverse (f : α → Attempt β) (as : List α) (bs : List β) (answered : each f as = .ok bs) :
    each f as.reverse = .ok bs.reverse := by
  induction as generalizing bs with
  | nil =>
      cases answered
      rfl
  | cons a rest ih =>
      obtain ⟨b, here, answered⟩ := bind_ok _ _ _ answered
      obtain ⟨later, there, answered⟩ := bind_ok _ _ _ answered
      cases answered
      rw [List.reverse_cons, List.reverse_cons]
      refine each_append f rest.reverse [a] later.reverse [b] (ih later there) ?_
      rw [each, here]
      rfl

theorem through_map (f : σ → β → Attempt σ) (g : α → β) (as : List α) (s : σ) :
    through f s (as.map g) = through (fun s a => f s (g a)) s as := by
  induction as generalizing s with
  | nil => rfl
  | cons a rest ih =>
      rw [List.map_cons, through, through]
      exact congrArg (f s (g a) >>= ·) (funext ih)

theorem through_filter (P : σ → Prop) (f : σ → α → Attempt σ) (keep : α → Bool) (as : List α) (s : σ) (start : P s)
    (keeps : ∀ s next a, P s → f s a = .ok next → P next)
    (idle : ∀ s, ∀ a ∈ as, P s → keep a = false → f s a = .ok s) : through f s as = through f s (as.filter keep) := by
  induction as generalizing s with
  | nil => rfl
  | cons a rest ih =>
      have later (s : σ) (holds : P s) := ih s holds fun s b member => idle s b (List.mem_cons_of_mem a member)
      cases kept : keep a with
      | true =>
          rw [List.filter_cons_of_pos kept, through, through]
          cases answer : f s a with
          | error cause => rfl
          | ok next => exact later next (keeps s next a start answer)
      | false =>
          rw [List.filter_cons_of_neg (Bool.eq_false_iff.mp kept), through, idle s a List.mem_cons_self start kept]
          exact later s start

-- A run that is seen through `look` is the run of what is seen.
theorem through_look (look : σ → τ) (f : α → Attempt β) (g : σ → α → Attempt σ) (h : τ → β → Attempt τ) (as : List α)
    (bs : List β) (answered : each f as = .ok bs)
    (same : ∀ s, ∀ a ∈ as, ∀ b, f a = .ok b → (g s a).map look = h (look s) b) (s : σ) :
    (through g s as).map look = through h (look s) bs := by
  induction as generalizing bs s with
  | nil =>
      cases answered
      rfl
  | cons a rest ih =>
      obtain ⟨b, here, answered⟩ := bind_ok _ _ _ answered
      obtain ⟨later, there, answered⟩ := bind_ok _ _ _ answered
      cases answered
      have seen := same s a List.mem_cons_self b here
      rw [through, through, ← seen]
      cases g s a with
      | error cause => rfl
      | ok next => exact ih later there (fun s c member => same s c (List.mem_cons_of_mem a member)) next

theorem ok_bind (a : α) (f : α → Attempt β) : ((.ok a : Attempt α) >>= f) = f a := rfl

theorem ok_map (f : α → β) (a : α) : (.ok a : Attempt α).map f = .ok (f a) := rfl

theorem alike_cases (look : α → γ) (x y : Attempt α) (same : x.map look = y.map look) :
    (∃ cause, x = .error cause ∧ y = .error cause) ∨ ∃ a b, x = .ok a ∧ y = .ok b ∧ look a = look b := by
  cases x with
  | error cause =>
      cases y with
      | error other =>
          cases same
          exact .inl ⟨cause, rfl, rfl⟩
      | ok b => cases same
  | ok a =>
      cases y with
      | error other => cases same
      | ok b => exact .inr ⟨a, b, rfl, rfl, Except.ok.inj same⟩

theorem bind_alike (look : α → γ) (see : β → τ) (x y : Attempt α) (f g : α → Attempt β) (first : x.map look = y.map look)
    (second : ∀ a b, look a = look b → (f a).map see = (g b).map see) : (x >>= f).map see = (y >>= g).map see := by
  rcases alike_cases look x y first with ⟨cause, rfl, rfl⟩ | ⟨a, b, rfl, rfl, alike⟩
  · rfl
  · exact second a b alike

theorem each_alike (see : β → τ) (f g : α → Attempt β) (same : ∀ a, (f a).map see = (g a).map see) (as : List α) :
    (each f as).map (List.map see) = (each g as).map (List.map see) := by
  induction as with
  | nil => rfl
  | cons a rest ih =>
      rw [each, each]
      refine bind_alike see _ _ _ _ _ (same a) fun b c here => ?_
      refine bind_alike (List.map see) _ _ _ _ _ ih fun bs cs there => ?_
      exact congrArg Except.ok (by rw [List.map_cons, List.map_cons, here, there])

theorem through_alike (look : σ → τ) (f g : σ → α → Attempt σ)
    (same : ∀ s t a, look s = look t → (f s a).map look = (g t a).map look) (as : List α) (s t : σ)
    (start : look s = look t) : (through f s as).map look = (through g t as).map look := by
  induction as generalizing s t with
  | nil => exact congrArg Except.ok start
  | cons a rest ih => exact bind_alike look look _ _ _ _ (same s t a start) ih

end KanjiPuzzle.Attempt
