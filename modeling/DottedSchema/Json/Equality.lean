import DottedSchema.Json

set_option autoImplicit false

namespace DottedSchema

namespace Number

def beq : Number → Number → Bool
  | .integer a, .integer b => a == b
  | .double a, .double b => a == b
  | _, _ => false

instance : BEq Number := ⟨beq⟩

instance : ReflBEq Number where
  rfl {a} := match a with
    | .integer a => (BEq.rfl : (a == a) = true)
    | .double a => (BEq.rfl : (a == a) = true)

instance : PartialEquivBEq Number where
  symm {a b} h := match a, b, h with
    | .integer a, .integer b, h => (BEq.symm (show (a == b) = true from h) : (b == a) = true)
    | .double a, .double b, h => (BEq.symm (show (a == b) = true from h) : (b == a) = true)
  trans {a b c} h k := match a, b, c, h, k with
    | .integer a, .integer b, .integer c, h, k =>
      (BEq.trans (show (a == b) = true from h) (show (b == c) = true from k) : (a == c) = true)
    | .double a, .double b, .double c, h, k =>
      (BEq.trans (show (a == b) = true from h) (show (b == c) = true from k) : (a == c) = true)

end Number

namespace Json

mutual

def beq : Json → Json → Bool
  | .null, .null => true
  | .bool a, .bool b => a == b
  | .number a, .number b => a == b
  | .text a, .text b => a == b
  | .array a, .array b => beqItems a b
  | .object a, .object b => beqMembers a b
  | _, _ => false

def beqItems : List Json → List Json → Bool
  | [], [] => true
  | a :: as, b :: bs => beq a b && beqItems as bs
  | _, _ => false

def beqMembers : List (String × Json) → List (String × Json) → Bool
  | [], [] => true
  | (k, a) :: as, (l, b) :: bs => k == l && beq a b && beqMembers as bs
  | _, _ => false

end

instance : BEq Json := ⟨beq⟩

mutual

theorem beq_self : ∀ v : Json, beq v v = true
  | .null => rfl
  | .bool b => (BEq.rfl : (b == b) = true)
  | .number n => (BEq.rfl : (n == n) = true)
  | .text s => (BEq.rfl : (s == s) = true)
  | .array items => beqItems_self items
  | .object members => beqMembers_self members

theorem beqItems_self : ∀ items : List Json, beqItems items items = true
  | [] => rfl
  | v :: rest => by rw [beqItems, beq_self v, beqItems_self rest, Bool.and_self]

theorem beqMembers_self : ∀ members : List (String × Json), beqMembers members members = true
  | [] => rfl
  | (key, v) :: rest => by rw [beqMembers, BEq.rfl, beq_self v, beqMembers_self rest, Bool.and_self, Bool.and_self]

end

instance : ReflBEq Json := ⟨fun {v} => beq_self v⟩

mutual

theorem beq_symm : ∀ {v w : Json}, beq v w = true → beq w v = true
  | .null, .null, _ => rfl
  | .bool a, .bool b, h => (BEq.symm (show (a == b) = true from h) : (b == a) = true)
  | .number n, .number m, h => (BEq.symm (show (n == m) = true from h) : (m == n) = true)
  | .text s, .text t, h => (BEq.symm (show (s == t) = true from h) : (t == s) = true)
  | .array _, .array _, h => beqItems_symm h
  | .object _, .object _, h => beqMembers_symm h

theorem beqItems_symm : ∀ {vs ws : List Json}, beqItems vs ws = true → beqItems ws vs = true
  | [], [], _ => rfl
  | _ :: _, _ :: _, h => by
    simp only [beqItems, Bool.and_eq_true] at h ⊢
    exact ⟨beq_symm h.1, beqItems_symm h.2⟩

theorem beqMembers_symm : ∀ {ms ns : List (String × Json)}, beqMembers ms ns = true → beqMembers ns ms = true
  | [], [], _ => rfl
  | (_, _) :: _, (_, _) :: _, h => by
    simp only [beqMembers, Bool.and_eq_true] at h ⊢
    exact ⟨⟨BEq.symm h.1.1, beq_symm h.1.2⟩, beqMembers_symm h.2⟩

end

mutual

theorem beq_trans : ∀ {u v w : Json}, beq u v = true → beq v w = true → beq u w = true
  | .null, .null, .null, _, _ => rfl
  | .bool a, .bool b, .bool c, h, k =>
    (BEq.trans (show (a == b) = true from h) (show (b == c) = true from k) : (a == c) = true)
  | .number n, .number m, .number l, h, k =>
    (BEq.trans (show (n == m) = true from h) (show (m == l) = true from k) : (n == l) = true)
  | .text s, .text t, .text r, h, k =>
    (BEq.trans (show (s == t) = true from h) (show (t == r) = true from k) : (s == r) = true)
  | .array _, .array _, .array _, h, k => beqItems_trans h k
  | .object _, .object _, .object _, h, k => beqMembers_trans h k

theorem beqItems_trans : ∀ {us vs ws : List Json}, beqItems us vs = true → beqItems vs ws = true →
    beqItems us ws = true
  | [], [], [], _, _ => rfl
  | _ :: _, _ :: _, _ :: _, h, k => by
    simp only [beqItems, Bool.and_eq_true] at h k ⊢
    exact ⟨beq_trans h.1 k.1, beqItems_trans h.2 k.2⟩

theorem beqMembers_trans : ∀ {ls ms ns : List (String × Json)}, beqMembers ls ms = true →
    beqMembers ms ns = true → beqMembers ls ns = true
  | [], [], [], _, _ => rfl
  | (_, _) :: _, (_, _) :: _, (_, _) :: _, h, k => by
    simp only [beqMembers, Bool.and_eq_true] at h k ⊢
    exact ⟨⟨BEq.trans h.1.1 k.1.1, beq_trans h.1.2 k.1.2⟩, beqMembers_trans h.2 k.2⟩

end

instance : PartialEquivBEq Json := ⟨beq_symm, beq_trans⟩

end Json

end DottedSchema
