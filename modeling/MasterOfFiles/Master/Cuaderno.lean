import Mathlib.Algebra.Order.BigOperators.Group.Finset
import Mathlib.Data.List.Nodup
import Mathlib.Logic.Function.Basic
import MasterOfFiles.Lib.Tally

/-!
What the Master's lists have to agree on, with each connection reduced to what it has entered
in them. Entries change one at a time; each change keeps the entries in agreement.
-/
namespace MasterCuaderno
open Tally

/-- activa: the query the connection has in query_en_worker. ligada: the one that carries its
    idWorker, which its thread reads back once the query is out of the list. -/
structure Vista where
  id : Int
  registrada : Bool
  viva : Bool
  contada : Bool
  activa : Option Int
  ligada : Option Int

structure Cuaderno where
  conexiones : Nat
  lista : List Nat
  enWorker : List Int
  cantidad : Int
  idWorker : Int → Int
  vistas : Nat → Vista

def Vista.cuenta (v : Vista) : Int := if v.contada then 1 else 0

def Vista.nueva (id : Int) : Vista := ⟨id, false, true, false, none, none⟩

/-- lista has the connections that entered it and have not left; their ids differ. -/
structure Registro (n : Nat) (lista : List Nat) (id : Nat → Int)
    (registrada viva : Nat → Bool) : Prop where
  ids : ∀ c c', c < n → c' < n → viva c → viva c' → id c = id c' → c = c'
  miembros : ∀ c, c ∈ lista ↔ registrada c ∧ viva c
  sinRepetir : lista.Nodup
  fuera : ∀ c, n ≤ c → registrada c = false

/-- enWorker has the query of each connection, which carries the idWorker of its own. -/
structure Reparto (n : Nat) (enWorker : List Int) (idWorker : Int → Int) (id : Nat → Int)
    (activa ligada : Nat → Option Int) : Prop where
  corren : ∀ q, q ∈ enWorker ↔ ∃ c, activa c = some q
  unica : ∀ c c' q, activa c = some q → activa c' = some q → c = c'
  ligadas : ∀ c q, ligada c = some q → idWorker q = id c
  fuera : ∀ c, n ≤ c → activa c = none ∧ ligada c = none

structure Asientos (k : Cuaderno) : Prop where
  registro : Registro k.conexiones k.lista (fun c => (k.vistas c).id)
    (fun c => (k.vistas c).registrada) fun c => (k.vistas c).viva
  reparto : Reparto k.conexiones k.enWorker k.idWorker (fun c => (k.vistas c).id)
    (fun c => (k.vistas c).activa) fun c => (k.vistas c).ligada
  cantidad : k.cantidad = ∑ c ∈ Finset.range k.conexiones, (k.vistas c).cuenta

inductive Apunte (k : Cuaderno) : Cuaderno → Prop
  | nada : Apunte k k
  | conecta (id : Int)
      (libre : ∀ c, c < k.conexiones → (k.vistas c).viva → (k.vistas c).id ≠ id) :
      Apunte k { k with
        conexiones := k.conexiones + 1
        vistas := Function.update k.vistas k.conexiones (.nueva id) }
  | cuenta (c : Nat) (en : c < k.conexiones) (antes : (k.vistas c).contada = false) :
      Apunte k { k with
        cantidad := k.cantidad + 1
        vistas := Function.update k.vistas c { k.vistas c with contada := true } }
  | registra (c : Nat) (en : c < k.conexiones) (antes : (k.vistas c).registrada = false)
      (viva : (k.vistas c).viva = true) :
      Apunte k { k with
        lista := k.lista ++ [c]
        vistas := Function.update k.vistas c { k.vistas c with registrada := true } }
  | agrega (c : Nat) (q : Int) (en : c < k.conexiones) (nueva : q ∉ k.enWorker)
      (libre : (k.vistas c).activa = none) (otras : ∀ o, (k.vistas o).ligada ≠ some q) :
      Apunte k { k with
        enWorker := k.enWorker ++ [q]
        idWorker := Function.update k.idWorker q (k.vistas c).id
        vistas := Function.update k.vistas c
          { k.vistas c with activa := some q, ligada := some q } }
  | quita (c : Nat) (q : Int) (antes : (k.vistas c).activa = some q) (l : Option Int)
      (queda : l = none ∨ l = (k.vistas c).ligada) (unaVez : k.enWorker.Nodup) :
      Apunte k { k with
        enWorker := k.enWorker.erase q
        vistas := Function.update k.vistas c { k.vistas c with activa := none, ligada := l } }
  | suelta (c : Nat) :
      Apunte k { k with
        vistas := Function.update k.vistas c { k.vistas c with ligada := none } }
  | descuenta (c : Nat) (en : c < k.conexiones) (antes : (k.vistas c).contada = true) :
      Apunte k { k with
        cantidad := k.cantidad - 1
        vistas := Function.update k.vistas c { k.vistas c with contada := false } }
  | libera (c : Nat) :
      Apunte k { k with
        lista := k.lista.erase c
        vistas := Function.update k.vistas c { k.vistas c with viva := false } }
  | liga (q id : Int) (libre : ∀ c, (k.vistas c).ligada ≠ some q) :
      Apunte k { k with idWorker := Function.update k.idWorker q id }

variable {k k' : Cuaderno}

section
variable {v : Nat → Vista} {c : Nat} {w : Vista}

theorem proy_update {α : Type*} (p : Vista → α) (same : p w = p (v c)) :
    (fun i => p (Function.update v c w i)) = fun i => p (v i) := by
  funext i
  by_cases h : i = c
  · subst h
    simpa using same
  · simp [h]

theorem sum_update {n : Nat} (v : Nat → Vista) (en : c < n) (w : Vista) :
    ∑ i ∈ Finset.range n, (Function.update v c w i).cuenta + (v c).cuenta =
      ∑ i ∈ Finset.range n, (v i).cuenta + w.cuenta := by
  have suma : tally (Finset.range n) Vista.cuenta (Function.update v c w) + (v c).cuenta =
      tally (Finset.range n) Vista.cuenta v + w.cuenta := tally_update _ _ (Finset.mem_range.mpr en) w
  exact suma

theorem sum_conecta {n : Nat} (v : Nat → Vista) (id : Int) :
    ∑ i ∈ Finset.range (n + 1), (Function.update v n (.nueva id) i).cuenta =
      ∑ i ∈ Finset.range n, (v i).cuenta := by
  have suma : tally (insert n (Finset.range n)) Vista.cuenta (Function.update v n (.nueva id)) =
      (Vista.nueva id).cuenta + tally (Finset.range n) Vista.cuenta v :=
    tally_insert _ _ Finset.notMem_range_self (Vista.nueva id)
  rw [Finset.range_add_one]
  exact suma.trans (zero_add _)

end

section
variable {n c : Nat} {lista : List Nat} {id : Nat → Int} {registrada viva : Nat → Bool}

theorem registro_conecta (h : Registro n lista id registrada viva) (nuevo : Int)
    (libre : ∀ c, c < n → viva c → id c ≠ nuevo) :
    Registro (n + 1) lista (Function.update id n nuevo) (Function.update registrada n false)
      (Function.update viva n true) := by
  constructor
  · intro c c' hc hc' vive vive' same
    by_cases hn : c = n <;> by_cases hn' : c' = n
    · rw [hn, hn']
    · subst hn
      simp only [Function.update_self, Function.update_of_ne hn'] at same vive'
      exact absurd same.symm (libre c' (by omega) vive')
    · subst hn'
      simp only [Function.update_self, Function.update_of_ne hn] at same vive
      exact absurd same (libre c (by omega) vive)
    · simp only [Function.update_of_ne hn, Function.update_of_ne hn'] at same vive vive'
      exact h.ids c c' (by omega) (by omega) vive vive' same
  · intro c
    by_cases hn : c = n
    · subst hn
      simp [h.miembros, h.fuera c (Nat.le_refl _)]
    · simp [h.miembros, hn]
  · exact h.sinRepetir
  · intro c hc
    rw [Function.update_of_ne (by omega)]
    exact h.fuera c (by omega)

theorem registro_registra (h : Registro n lista id registrada viva) (en : c < n)
    (antes : registrada c = false) (vive : viva c = true) :
    Registro n (lista ++ [c]) id (Function.update registrada c true) viva := by
  have nueva : c ∉ lista := by simp [h.miembros, antes]
  constructor
  · exact h.ids
  · intro o
    by_cases ho : o = c
    · subst ho
      simp [vive]
    · simp [h.miembros, ho]
  · exact List.Nodup.append h.sinRepetir (by simp) (by simpa using nueva)
  · intro o ho
    rw [Function.update_of_ne (by omega)]
    exact h.fuera o ho

theorem registro_libera (h : Registro n lista id registrada viva) (c : Nat) :
    Registro n (lista.erase c) id registrada (Function.update viva c false) := by
  have menos (o : Nat) (ho : Function.update viva c false o = true) : viva o = true := by
    by_cases same : o = c
    · simp [same] at ho
    · rwa [Function.update_of_ne same] at ho
  constructor
  · intro o o' ho ho' vive vive' same
    exact h.ids o o' ho ho' (menos o vive) (menos o' vive') same
  · intro o
    rw [h.sinRepetir.mem_erase_iff, h.miembros]
    by_cases ho : o = c <;> simp [ho]
  · exact h.sinRepetir.erase c
  · exact h.fuera

end

section
variable {enWorker : List Int} {idWorker : Int → Int} {id : Nat → Int}
variable {activa ligada : Nat → Option Int} {n c : Nat} {q : Int}

theorem reparto_conecta (h : Reparto n enWorker idWorker id activa ligada) (nuevo : Int) :
    Reparto (n + 1) enWorker idWorker (Function.update id n nuevo)
      (Function.update activa n none) (Function.update ligada n none) := by
  obtain ⟨sinActiva, sinLigada⟩ := h.fuera n (Nat.le_refl _)
  have activas : Function.update activa n none = activa := sinActiva ▸ Function.update_eq_self n _
  have ligadas : Function.update ligada n none = ligada := sinLigada ▸ Function.update_eq_self n _
  rw [activas, ligadas]
  refine ⟨h.corren, h.unica, ?_, fun c hc => h.fuera c (by omega)⟩
  intro o t ho
  rw [Function.update_of_ne (by rintro rfl; simp [sinLigada] at ho)]
  exact h.ligadas o t ho

theorem reparto_agrega (h : Reparto n enWorker idWorker id activa ligada) (en : c < n)
    (nueva : q ∉ enWorker) (libre : activa c = none) (otras : ∀ o, ligada o ≠ some q) :
    Reparto n (enWorker ++ [q]) (Function.update idWorker q (id c)) id
      (Function.update activa c (some q)) (Function.update ligada c (some q)) := by
  have sola (o : Nat) (ho : Function.update activa c (some q) o = some q) : o = c := by
    by_contra distinta
    rw [Function.update_of_ne distinta] at ho
    exact nueva ((h.corren q).mpr ⟨o, ho⟩)
  constructor
  · intro t
    rw [List.mem_append, List.mem_singleton, h.corren]
    constructor
    · rintro (⟨o, ho⟩ | rfl)
      · refine ⟨o, ?_⟩
        rwa [Function.update_of_ne (by rintro rfl; simp [libre] at ho)]
      · exact ⟨c, by simp⟩
    · rintro ⟨o, ho⟩
      by_cases same : o = c
      · right
        simpa [same, eq_comm] using ho
      · exact .inl ⟨o, by rwa [Function.update_of_ne same] at ho⟩
  · intro o o' t ho ho'
    by_cases same : t = q
    · subst same
      rw [sola o ho, sola o' ho']
    · have vieja {i : Nat} (hi : Function.update activa c (some q) i = some t) :
          activa i = some t := by
        rwa [Function.update_of_ne] at hi
        rintro rfl
        exact same (by simpa [eq_comm] using hi)
      exact h.unica o o' t (vieja ho) (vieja ho')
  · intro o t ho
    by_cases same : o = c
    · subst same
      have : q = t := by simpa using ho
      simp [← this]
    · rw [Function.update_of_ne same] at ho
      rw [Function.update_of_ne (by rintro rfl; exact otras o ho)]
      exact h.ligadas o t ho
  · intro o ho
    rw [Function.update_of_ne (by omega), Function.update_of_ne (by omega)]
    exact h.fuera o ho

theorem reparto_quita (h : Reparto n enWorker idWorker id activa ligada) (antes : activa c = some q)
    (unaVez : enWorker.Nodup) {l : Option Int} (queda : l = none ∨ l = ligada c) :
    Reparto n (enWorker.erase q) idWorker id (Function.update activa c none)
      (Function.update ligada c l) := by
  have menos {o : Nat} {t : Int} (ho : Function.update activa c none o = some t) :
      activa o = some t ∧ o ≠ c := by
    by_cases same : o = c
    · simp [same] at ho
    · exact ⟨by rwa [Function.update_of_ne same] at ho, same⟩
  constructor
  · intro t
    rw [unaVez.mem_erase_iff, h.corren]
    constructor
    · rintro ⟨distinta, o, ho⟩
      refine ⟨o, ?_⟩
      rwa [Function.update_of_ne]
      rintro rfl
      exact distinta (Option.some.inj (ho.symm.trans antes))
    · rintro ⟨o, ho⟩
      refine ⟨?_, o, (menos ho).1⟩
      rintro rfl
      exact (menos ho).2 (h.unica o c t (menos ho).1 antes)
  · intro o o' t ho ho'
    exact h.unica o o' t (menos ho).1 (menos ho').1
  · intro o t ho
    by_cases same : o = c
    · subst same
      rw [Function.update_self] at ho
      rcases queda with rfl | rfl
      · contradiction
      · exact h.ligadas o t ho
    · rw [Function.update_of_ne same] at ho
      exact h.ligadas o t ho
  · intro o ho
    have distinta : o ≠ c := by
      rintro rfl
      simp [(h.fuera o ho).1] at antes
    rw [Function.update_of_ne distinta, Function.update_of_ne distinta]
    exact h.fuera o ho

theorem reparto_suelta (h : Reparto n enWorker idWorker id activa ligada) (c : Nat) :
    Reparto n enWorker idWorker id activa (Function.update ligada c none) := by
  have menos (o : Nat) : Function.update ligada c none o = ligada o ∨
      Function.update ligada c none o = none := by
    by_cases same : o = c <;> simp [same]
  refine ⟨h.corren, h.unica, fun o t ho => ?_, fun o ho => ⟨(h.fuera o ho).1, ?_⟩⟩
  · rcases menos o with igual | nada
    · exact h.ligadas o t (igual ▸ ho)
    · simp [nada] at ho
  · rcases menos o with igual | nada
    · exact igual.trans (h.fuera o ho).2
    · exact nada

theorem reparto_liga (h : Reparto n enWorker idWorker id activa ligada) (nueva : Int)
    (libre : ∀ c, ligada c ≠ some q) :
    Reparto n enWorker (Function.update idWorker q nueva) id activa ligada := by
  refine ⟨h.corren, h.unica, ?_, h.fuera⟩
  intro o t ho
  rw [Function.update_of_ne (by rintro rfl; exact libre o ho)]
  exact h.ligadas o t ho

end

theorem asientos_update {k k' : Cuaderno} {c : Nat} {w : Vista}
    (vistas : k'.vistas = Function.update k.vistas c w) (id : w.id = (k.vistas c).id)
    (registro : Registro k'.conexiones k'.lista (fun c => (k.vistas c).id)
      (Function.update (fun c => (k.vistas c).registrada) c w.registrada)
      (Function.update (fun c => (k.vistas c).viva) c w.viva))
    (reparto : Reparto k'.conexiones k'.enWorker k'.idWorker (fun c => (k.vistas c).id)
      (Function.update (fun c => (k.vistas c).activa) c w.activa)
      (Function.update (fun c => (k.vistas c).ligada) c w.ligada))
    (cantidad : k'.cantidad =
      ∑ c ∈ Finset.range k'.conexiones, (k'.vistas c).cuenta) : Asientos k' := by
  have vista {α : Type} (p : Vista → α) : (fun i => p (Function.update k.vistas c w i)) =
      Function.update (fun i => p (k.vistas i)) c (p w) :=
    (Function.comp_update p k.vistas c w)
  constructor
  · rw [vistas, vista Vista.registrada, vista Vista.viva, proy_update Vista.id id]
    exact registro
  · rw [vistas, vista Vista.activa, vista Vista.ligada, proy_update Vista.id id]
    exact reparto
  · exact cantidad

theorem update_igual {α : Type*} (f : Nat → α) (c : Nat) : Function.update f c (f c) = f :=
  Function.update_eq_self c f

theorem asientos_conecta (h : Asientos k) (id : Int)
    (libre : ∀ c, c < k.conexiones → (k.vistas c).viva → (k.vistas c).id ≠ id) :
    Asientos { k with
      conexiones := k.conexiones + 1
      vistas := Function.update k.vistas k.conexiones (.nueva id) } := by
  have vista {α : Type} (p : Vista → α) :
      (fun i => p (Function.update k.vistas k.conexiones (.nueva id) i)) =
        Function.update (fun i => p (k.vistas i)) k.conexiones (p (.nueva id)) :=
    Function.comp_update p k.vistas k.conexiones _
  constructor
  · simp only [vista]
    exact registro_conecta h.registro id libre
  · simp only [vista]
    exact reparto_conecta h.reparto id
  · exact h.cantidad.trans (sum_conecta k.vistas id).symm

theorem asientos_apunte (h : Asientos k) (apunte : Apunte k k') : Asientos k' := by
  have registro (c : Nat) : Registro k.conexiones k.lista (fun c => (k.vistas c).id)
      (Function.update (fun c => (k.vistas c).registrada) c (k.vistas c).registrada)
      (Function.update (fun c => (k.vistas c).viva) c (k.vistas c).viva) := by
    rw [update_igual fun c => (k.vistas c).registrada, update_igual fun c => (k.vistas c).viva]
    exact h.registro
  have reparto (c : Nat) : Reparto k.conexiones k.enWorker k.idWorker (fun c => (k.vistas c).id)
      (Function.update (fun c => (k.vistas c).activa) c (k.vistas c).activa)
      (Function.update (fun c => (k.vistas c).ligada) c (k.vistas c).ligada) := by
    rw [update_igual fun c => (k.vistas c).activa, update_igual fun c => (k.vistas c).ligada]
    exact h.reparto
  have cantidad (c : Nat) (w : Vista) (misma : w.contada = (k.vistas c).contada) :
      k.cantidad = ∑ i ∈ Finset.range k.conexiones, (Function.update k.vistas c w i).cuenta := by
    have cuenta : w.cuenta = (k.vistas c).cuenta := by rw [Vista.cuenta, misma]; rfl
    rw [Finset.sum_congr rfl fun i _ => congrFun (proy_update Vista.cuenta cuenta) i]
    exact h.cantidad
  cases apunte with
  | nada => exact h
  | conecta id libre => exact asientos_conecta h id libre
  | cuenta c en antes =>
    have suma := sum_update k.vistas en { k.vistas c with contada := true }
    have total := h.cantidad
    refine asientos_update (k := k) (c := c) rfl rfl (registro c) (reparto c) ?_
    simp only [Vista.cuenta, antes] at suma total ⊢
    simp only [Bool.false_eq_true, if_false, if_true] at suma
    omega
  | registra c en antes viva =>
    refine asientos_update (k := k) (c := c) rfl rfl ?_ (reparto c) (cantidad c _ rfl)
    rw [update_igual fun c => (k.vistas c).viva]
    exact registro_registra h.registro en antes viva
  | agrega c q en nueva libre otras =>
    exact asientos_update (k := k) (c := c) rfl rfl (registro c)
      (reparto_agrega h.reparto en nueva libre otras) (cantidad c _ rfl)
  | quita c q antes l queda unaVez =>
    exact asientos_update (k := k) (c := c) rfl rfl (registro c)
      (reparto_quita h.reparto antes unaVez queda) (cantidad c _ rfl)
  | suelta c =>
    refine asientos_update (k := k) (c := c) rfl rfl (registro c) ?_ (cantidad c _ rfl)
    rw [update_igual fun c => (k.vistas c).activa]
    exact reparto_suelta h.reparto c
  | descuenta c en antes =>
    have suma := sum_update k.vistas en { k.vistas c with contada := false }
    have total := h.cantidad
    refine asientos_update (k := k) (c := c) rfl rfl (registro c) (reparto c) ?_
    simp only [Vista.cuenta, antes] at suma total ⊢
    simp only [Bool.false_eq_true, if_false, if_true] at suma
    omega
  | libera c =>
    refine asientos_update (k := k) (c := c) rfl rfl ?_ (reparto c) (cantidad c _ rfl)
    rw [update_igual fun c => (k.vistas c).registrada]
    exact registro_libera h.registro c
  | liga q id libre => exact ⟨h.registro, reparto_liga h.reparto id libre, h.cantidad⟩

end MasterCuaderno
