import RackInventory.Proofs.Json.Collections
import RackInventory.Proofs.Shape.Printed

/-!
# What follows a value does not matter

Reading a value of any description takes the same front before every rest that starts in the same way,
and at every depth that the description fits in. A record ends with a bracket and starts with one, so
what surrounds it does not matter at all.
-/

namespace RackInventory

open Json Reader

theorem repeats_judged {α : Type} (outcome : Except DecodeError α) : (judged outcome).Repeats := by
  cases outcome with
  | ok a => exact repeats_pure a
  | error e => exact repeats_refuse e

theorem stays_judged {α : Type} (outcome : Except DecodeError α) : (judged outcome).Stays := by
  cases outcome with
  | ok a => exact stays_pure a
  | error e => exact (fails_refuse e).stays

theorem repeats_peekValue : peekValue.Repeats := by
  refine repeats_peekToken.bind fun c => ?_
  split
  · exact repeats_pure _
  · exact repeats_fail _

theorem closedBy_deeper {β : Type} {f f' : Nat → Reader β} {depth depth' : Nat} (deep : 1 < depth')
    (later : (f (depth - 1)).ClosedBy (f' (depth' - 1))) :
    (deeper depth >>= f).ClosedBy (deeper depth' >>= f') := by
  rw [deeper, deeper, if_neg (Nat.not_le_of_lt deep)]
  split
  · exact (fails_fail _).closedBy
  · exact later

theorem repeatedBy_discard_deeper {depth depth' : Nat} (deep : 1 < depth') :
    (discard (deeper depth)).RepeatedBy (discard (deeper depth')) := by
  rw [deeper, deeper, if_neg (Nat.not_le_of_lt deep)]
  split
  · refine Fails.repeatedBy fun _ _ _ gives => ?_
    cases gives
  · exact repeats_pure ()

theorem fails_refuseType {α : Type} (wanted : String) : (refuseType wanted : Reader α).Fails := by
  refine fails_bind fun c => ?_
  split
  · exact fails_fail _
  · exact fails_bind fun _ => fails_bind fun _ => fails_refuse _
  · exact fails_bind fun _ => fails_bind fun _ => fails_refuse _
  · exact fails_bind fun _ => fails_bind fun _ => fails_refuse _
  · exact fails_bind fun _ => fails_bind fun _ => fails_refuse _
  · exact fails_bind fun _ => fails_bind fun _ => fails_refuse _
  · exact fails_refuse _
  · exact fails_refuse _
  · split
    · exact fails_bind fun _ => fails_refuse _
    · exact fails_fail _

theorem repeats_refuseType {α : Type} (wanted : String) : (refuseType wanted : Reader α).Repeats :=
  (fails_refuseType wanted).repeatedBy

theorem repeats_readString (wanted : String) : (readString wanted).Repeats := by
  refine repeats_peekValue.bind fun c => ?_
  split
  · exact repeats_advance.bind fun _ => repeats_text
  · exact repeats_refuseType wanted

theorem repeats_readNumber {α : Type} (wanted : String) (judge : Number → Except DecodeError α) :
    (readNumber wanted judge).Repeats := by
  refine repeats_peekValue.bind fun c => ?_
  split
  · exact repeats_advance.bind fun _ => (Numeral.repeats_read _).bind fun _ => repeats_judged _
  · split
    · exact (Numeral.repeats_read _).bind fun _ => repeats_judged _
    · exact repeats_refuseType wanted

theorem repeats_readUnit : readUnit.Repeats := by
  refine repeats_peekValue.bind fun c => ?_
  split
  · exact repeats_advance.bind fun _ => repeats_word _
  · exact repeats_refuseType _

theorem repeatedBy_readChoice {α : Type} (cases : List (String × α)) {depth depth' : Nat}
    (deep : 1 < depth') : (readChoice cases depth).RepeatedBy (readChoice cases depth') := by
  refine RepeatedBy.bind repeats_peekValue fun c => ?_
  split
  · exact (repeats_readString _).bind fun _ => repeats_judged _
  · refine RepeatedBy.bind (repeatedBy_discard_deeper deep) fun _ => ?_
    refine repeats_advance.bind fun _ => (repeats_readString _).bind fun _ =>
      (repeats_judged _).bind fun _ => repeats_colon.bind fun _ => repeats_readUnit.bind fun _ =>
        repeats_peekToken.bind fun d => ?_
    split
    · exact repeats_advance.bind fun _ => repeats_pure _
    · exact repeats_fail _
    · exact repeats_fail _
  · exact repeats_fail _

theorem repeatedBy_either (name : String) {depth depth' : Nat} (deep : 0 < depth') :
    RepeatedBy (value depth >>= fun v => judged (decodeEither name v))
      (value depth' >>= fun v => judged (decodeEither name v)) := by
  obtain ⟨depth', rfl⟩ := Nat.exists_eq_succ_of_ne_zero (Nat.ne_zero_of_lt deep)
  cases depth with
  | zero => exact fun _ _ _ gives => absurd gives nofun
  | succ depth =>
    have nested {β : Type} (r : Reader β) (f : β → Json)
        (other : ∀ b, decodeEither name (f b) = .error (.noVariant name)) :
        Fails ((do
          if depth = 0 then fail .recursionLimit
          advance
          return f (← r) : Reader Json) >>= fun v => judged (decodeEither name v)) := by
      have inner : Fails ((do
          advance
          return f (← r) : Reader Json) >>= fun v => judged (decodeEither name v)) := by
        simp only [bind_assoc, pure_bind, other]
        exact fails_bind fun _ => fails_bind fun _ => fails_refuse _
      split
      · exact fails_fail _
      · exact inner
    rw [value, value, bind_assoc, bind_assoc]
    refine RepeatedBy.bind repeats_peekToken fun c => ?_
    split
    · exact Repeats.bind (repeats_fail _) fun _ => repeats_judged _
    · exact Repeats.bind (repeats_advance.bind fun _ => (repeats_word _).bind fun _ => repeats_pure _)
        fun _ => repeats_judged _
    · exact Repeats.bind (repeats_advance.bind fun _ => (repeats_word _).bind fun _ => repeats_pure _)
        fun _ => repeats_judged _
    · exact Repeats.bind (repeats_advance.bind fun _ => (repeats_word _).bind fun _ => repeats_pure _)
        fun _ => repeats_judged _
    · exact Repeats.bind (repeats_advance.bind fun _ => (Numeral.repeats_read _).bind fun _ =>
        repeats_pure _) fun _ => repeats_judged _
    · exact Repeats.bind (repeats_advance.bind fun _ => repeats_text.bind fun _ => repeats_pure _)
        fun _ => repeats_judged _
    · exact (nested _ array fun _ => rfl).repeatedBy
    · exact (nested _ object fun _ => rfl).repeatedBy
    · split
      · exact Repeats.bind ((Numeral.repeats_read _).bind fun _ => repeats_pure _)
          fun _ => repeats_judged _
      · exact Repeats.bind (repeats_fail _) fun _ => repeats_judged _

theorem closedBy_readList {α : Type} (item : Shape α) {depth depth' : Nat} (deep : 1 < depth')
    (each : (item.read (depth - 1)).RepeatedBy (item.read (depth' - 1))) :
    ((Shape.list item).read depth).ClosedBy ((Shape.list item).read depth') := by
  refine RepeatedBy.bind_closed repeats_peekValue fun c => ?_
  split
  · exact closedBy_deeper deep (RepeatedBy.bind_closed repeats_advance fun _ => closedBy_items each)
  · exact (fails_refuseType _).closedBy

/-- A record ends with its bracket. -/
theorem closedBy_readRecord {α σ : Type} (name : String) (fields : Fields α σ) {depth depth' : Nat}
    (deep : 1 < depth')
    (item : (fields.readItems name fields.size 0 (depth - 1)).RepeatedBy
      (fields.readItems name fields.size 0 (depth' - 1)))
    (member : ∀ filled member, (fields.readMember filled member (depth - 1)).RepeatedBy
      (fields.readMember filled member (depth' - 1))) :
    ((Shape.record name fields).read depth).ClosedBy ((Shape.record name fields).read depth') := by
  refine RepeatedBy.bind_closed repeats_peekValue fun c => ?_
  split
  · exact closedBy_deeper deep (RepeatedBy.bind_closed repeats_advance fun _ =>
      RepeatedBy.bind_closed item fun a => closedBy_endList.bind fun _ => stays_pure a)
  · exact closedBy_deeper deep (RepeatedBy.bind_closed repeats_advance fun _ =>
      (closedBy_members (fun name filled => member filled name) _).bind fun _ => stays_judged _)
  · exact (fails_refuseType _).closedBy

mutual

/-- A value is taken again at every depth that it fits in. -/
theorem Shape.repeatedBy_read : ∀ {α : Type} (s : Shape α) {depth depth' : Nat}, s.height < depth' →
    (s.read depth).RepeatedBy (s.read depth')
  | _, .string, _, _, _ => repeats_readString _
  | _, .u32, _, _, _ => repeats_readNumber _ _
  | _, .u64, _, _, _ => repeats_readNumber _ _
  | _, .f64, _, _, _ => repeats_readNumber _ _
  | _, .either name, _, _, deep => repeatedBy_either name deep
  | _, .choice cases _ _, _, _, deep => repeatedBy_readChoice cases deep
  | _, .list item, _, _, deep =>
    (closedBy_readList item (Nat.lt_of_le_of_lt (Nat.le_add_left ..) deep)
      (item.repeatedBy_read (Nat.lt_sub_of_add_lt deep))).repeatedBy
  | _, .optional item, _, _, deep => RepeatedBy.bind repeats_peekToken fun c => by
    split
    · exact repeats_advance.bind fun _ => (repeats_word _).bind fun _ => repeats_pure none
    · exact (item.repeatedBy_read deep).bind fun _ => repeats_pure _
  | _, .map s _ _ _, _, _, deep => (s.repeatedBy_read deep).bind fun _ => repeats_pure _
  | _, .record name fields, _, _, deep =>
    (closedBy_readRecord name fields (Nat.lt_of_le_of_lt (Nat.le_add_left ..) deep)
      (fields.repeatedBy_readItems _ _ _ (Nat.lt_sub_of_add_lt deep))
      fun _ _ => fields.repeatedBy_readMember _ _ (Nat.lt_sub_of_add_lt deep)).repeatedBy

theorem Fields.repeatedBy_readMember : ∀ {α σ : Type} (fields : Fields α σ) (filled : σ)
    (name : String) {depth depth' : Nat}, fields.height < depth' →
    (fields.readMember filled name depth).RepeatedBy (fields.readMember filled name depth')
  | _, _, .nil, filled, _, _, _, _ =>
    repeats_colon.bind fun _ => repeats_skipValue.bind fun _ => repeats_pure filled
  | _, _, .cons field aliases shape _ rest, (a, filled), name, _, _, deep => by
    obtain ⟨here, later⟩ := Nat.max_lt.mp deep
    rw [Fields.readMember, Fields.readMember]
    split
    · split
      · exact repeats_refuse _
      · exact RepeatedBy.bind repeats_colon fun _ => (shape.repeatedBy_read here).bind fun _ =>
          repeats_pure _
    · exact (rest.repeatedBy_readMember filled name later).bind fun _ => repeats_pure _

theorem Fields.repeatedBy_readItems : ∀ {α σ : Type} (fields : Fields α σ) (record : String)
    (count index : Nat) {depth depth' : Nat}, fields.height < depth' →
    (fields.readItems record count index depth).RepeatedBy (fields.readItems record count index depth')
  | _, _, .nil, _, _, _, _, _, _ => repeats_pure ()
  | _, _, .cons _ _ shape absent rest, record, count, index, _, _, deep => by
    obtain ⟨here, later⟩ := Nat.max_lt.mp deep
    refine RepeatedBy.bind (repeats_moreItems _) fun more => ?_
    split
    · exact (shape.repeatedBy_read here).bind fun _ =>
        (rest.repeatedBy_readItems record count (index + 1) later).bind fun _ => repeats_pure _
    · split
      · exact (rest.repeatedBy_readItems record count (index + 1) later).bind fun _ => repeats_pure _
      · exact repeats_refuse _

end

end RackInventory
