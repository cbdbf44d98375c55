/-
JSON values, as a program builds and reads them by name and by position.

Reading what is not there gives `null`, as reading a `null` does.  Numbers are whole.
`elements_select` and `elements_each` are the two loops that build an array from an array:
one entry for each selected element at a counter, and one entry for each element at its place.
-/
import Mathlib.Data.List.Forall2

inductive JValue where
  | null
  | boolean (b : Bool)
  | number (n : Int)
  | string (s : String)
  | array (elements : List JValue)
  | object (fields : List (String × JValue))

namespace JValue

/-! ### Reading -/

def elements : JValue → List JValue
  | array elements => elements
  | _ => []

def arraySize (v : JValue) : Nat := v.elements.length

def nth (v : JValue) (index : Nat) : JValue := v.elements.getD index null

def fields : JValue → List (String × JValue)
  | object fields => fields
  | _ => []

def readField (key : String) : List (String × JValue) → JValue
  | [] => null
  | (k, v) :: fields => if key = k then v else readField key fields

def get (v : JValue) (key : String) : JValue := readField key v.fields

/-- Whether there is a field of this name; only an object has fields. -/
def hasKey (v : JValue) (key : String) : Bool := v.fields.any (·.1 = key)

def isArray : JValue → Bool
  | array _ => true
  | _ => false

def isObject : JValue → Bool
  | object _ => true
  | _ => false

def isNumber : JValue → Bool
  | number _ => true
  | _ => false

def isString : JValue → Bool
  | string _ => true
  | _ => false

/-- Whether it is this text. -/
def isText (v : JValue) (text : String) : Bool :=
  match v with
  | string s => s = text
  | _ => false

def asString : JValue → String
  | string s => s
  | _ => ""

def asNumber : JValue → Int
  | number n => n
  | _ => 0

def asBool : JValue → Bool
  | boolean b => b
  | _ => false

/-! ### Building -/

/-- The fields with one put; a field of this name is replaced where it stands. -/
def putField (key : String) (value : JValue) :
    List (String × JValue) → List (String × JValue)
  | [] => [(key, value)]
  | (k, v) :: fields =>
    if key = k then (key, value) :: fields else (k, v) :: putField key value fields

def put (v : JValue) (key : String) (value : JValue) : JValue :=
  match v with
  | object fields => object (putField key value fields)
  | _ => v

/-- An element put at its place; the places before it that were not there are `null`. -/
def putNth (v : JValue) (index : Nat) (value : JValue) : JValue :=
  match v with
  | array elements =>
    if index < elements.length then array (elements.set index value)
    else array (elements ++ List.replicate (index - elements.length) null ++ [value])
  | _ => v

/-- The fields of these names put one after the other, with what `source` has under them. -/
def copy (source : JValue) (keys : List String) (target : JValue) : JValue :=
  keys.foldl (fun v key => v.put key (source.get key)) target

/-! ### What was put is read -/

@[simp] theorem elements_array (l : List JValue) : (array l).elements = l := rfl

theorem readField_putField (key key' : String) (value : JValue) (l : List (String × JValue)) :
    readField key' (putField key value l) = if key' = key then value else readField key' l := by
  induction l with
  | nil => rfl
  | cons f l ih =>
    obtain ⟨k, v⟩ := f
    unfold putField
    by_cases hk : key = k
    · subst hk
      by_cases h : key' = key <;> simp [readField, h]
    · rw [if_neg hk]
      unfold readField
      rw [ih]
      by_cases h : key' = k
      · have hne : ¬ k = key := fun hkey => hk hkey.symm
        simp [h, hne]
      · simp [h]

@[simp] theorem get_put_object (key key' : String) (value : JValue)
    (l : List (String × JValue)) :
    ((object l).put key value).get key' = if key' = key then value else (object l).get key' :=
  readField_putField key key' value l

/-- What a copy leaves under a name. -/
theorem get_copy (source : JValue) (keys : List String) (l : List (String × JValue))
    (key : String) :
    (copy source keys (object l)).get key
      = if key ∈ keys then source.get key else (object l).get key := by
  induction keys generalizing l with
  | nil => simp [copy]
  | cons k keys ih =>
    have hcons : copy source (k :: keys) (object l)
        = copy source keys (object (putField k (source.get k) l)) := rfl
    have hput := get_put_object k key (source.get k) l
    rw [hcons, ih]
    by_cases hmem : key ∈ keys
    · rw [if_pos hmem, if_pos (List.mem_cons_of_mem k hmem)]
    · rw [if_neg hmem]
      by_cases hk : key = k
      · subst hk
        rw [if_pos List.mem_cons_self]
        simpa [put] using hput
      · rw [if_neg (by simp [hk, hmem])]
        simpa [put, hk] using hput

theorem get_copy_of_mem {source : JValue} {keys : List String} {l : List (String × JValue)}
    {key : String} (h : key ∈ keys) :
    (copy source keys (object l)).get key = source.get key := by
  rw [get_copy, if_pos h]

/-! ### Loops over an array -/

theorem putNth_length {l : List JValue} {index : Nat} (h : l.length = index) (value : JValue) :
    (array l).putNth index value = array (l ++ [value]) := by
  subst h
  simp [putNth]

/-- The elements, read one after the other. -/
theorem foldl_nth {β : Type} (v : JValue) (f : β → JValue → β) (b : β) :
    (List.range v.arraySize).foldl (fun b index => f b (v.nth index)) b
      = v.elements.foldl f b := by
  have hmap : (List.range v.arraySize).map v.nth = v.elements := by
    apply List.ext_getElem
    · simp [arraySize]
    · intro i h h'
      simp [nth, h']
  rw [← hmap, List.foldl_map]

/-- One entry for each element, put at its place. -/
theorem elements_each (v : JValue) (entry : JValue → JValue) :
    (List.range v.arraySize).foldl (fun list idx => list.putNth idx (entry (v.nth idx))) (array [])
      = array (v.elements.map entry) := by
  -- after `n` turns the first `n` entries are there
  have hturns : ∀ n, n ≤ v.elements.length →
      (List.range n).foldl (fun list idx => list.putNth idx (entry (v.nth idx))) (array [])
        = array ((v.elements.take n).map entry) := by
    intro n
    induction n with
    | zero => intro _; rfl
    | succ n ih =>
      intro hn
      have hlt : n < v.elements.length := hn
      have hlength : ((v.elements.take n).map entry).length = n := by
        rw [List.length_map, List.length_take]
        omega
      have hnth : v.nth n = v.elements[n] := by
        simp [nth, hlt]
      rw [List.range_succ, List.foldl_append, ih (by omega)]
      simp only [List.foldl_cons, List.foldl_nil]
      rw [hnth, putNth_length hlength, List.take_succ_eq_append_getElem hlt, List.map_append,
        List.map_singleton]
  have hall := hturns v.elements.length (Nat.le_refl _)
  rw [List.take_length] at hall
  exact hall

/-- One entry for each selected element, put at a counter. -/
theorem elements_select (keep : JValue → Bool) (entry : JValue → JValue) (l done : List JValue) :
    l.foldl (fun (list, count) v =>
        if keep v then (list.putNth count (entry v), count + 1) else (list, count))
        (array done, done.length)
      = (array (done ++ (l.filter keep).map entry), done.length + (l.filter keep).length) := by
  induction l generalizing done with
  | nil => simp
  | cons v l ih =>
    rw [List.foldl_cons]
    cases hv : keep v with
    | true =>
      have hdone := ih (done ++ [entry v])
      rw [List.length_append, List.length_singleton] at hdone
      simp only [if_pos, putNth_length rfl, hdone, List.filter_cons_of_pos hv, List.map_cons,
        List.length_cons, List.append_assoc, List.singleton_append]
      congr 1
      omega
    | false =>
      have hskip : ¬ keep v = true := by simp [hv]
      rw [List.filter_cons_of_neg hskip]
      exact ih done

/-- The same, with the elements read one after the other. -/
theorem nth_select (v : JValue) (keep : JValue → Bool) (entry : JValue → JValue) :
    (List.range v.arraySize).foldl (fun (list, count) index =>
        if keep (v.nth index) then (list.putNth count (entry (v.nth index)), count + 1)
        else (list, count)) (array [], 0)
      = (array ((v.elements.filter keep).map entry), (v.elements.filter keep).length) := by
  rw [foldl_nth v (fun (list, count) record =>
    if keep record then (list.putNth count (entry record), count + 1) else (list, count))
    (array [], 0)]
  have hselect := elements_select keep entry v.elements []
  rw [List.length_nil, List.nil_append, Nat.zero_add] at hselect
  exact hselect

end JValue
