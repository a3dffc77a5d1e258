import Mathlib.Tactic.Ring
import MasterOfFiles.Worker.Coherencia

/-!
acceder_memoria on the bytes of a File:Tag. An access works page by page and may evict pages
of its own file on the way; what it writes or reads is still a stretch of one flat array.
-/
namespace WorkerAccesos
open StorageEstado StorageEscritura WorkerMemoria WorkerPaginas WorkerReemplazo WorkerCoherencia
open WriteBack Relation

variable {σ : Type} {srv : Servidor σ} {cfg : ConfigMemoria} {Bueno : σ → Prop}
  {mem mem' : Memoria} {n n' : Nodo σ} {f g : Archivo} {k m : Nat} {e : EntradaPagina}
  {propios : Archivo → Prop}

/-- The bytes of every File:Tag, none past its end. -/
abbrev Plano := Archivo → Nat → Option UInt8

def sobrescribir (p : Plano) (f : Archivo) (base : Nat) (bytes : Bytes) : Plano := fun g i =>
  if g = f ∧ base ≤ i ∧ i < base + bytes.length then bytes[i - base]? else p g i

theorem sobrescribir_nil (p : Plano) (f : Archivo) (base : Nat) : sobrescribir p f base [] = p := by
  funext g i
  have empty : ¬(g = f ∧ base ≤ i ∧ i < base + ([] : Bytes).length) := by
    simp only [List.length_nil]
    omega
  rw [sobrescribir, if_neg empty]

theorem sobrescribir_congr_at {p p' : Plano} {f g : Archivo} {base i : Nat} {bytes : Bytes}
    (same : (g = f ∧ base ≤ i ∧ i < base + bytes.length) ∨ p' g i = p g i) :
    sobrescribir p' f base bytes g i = sobrescribir p f base bytes g i := by
  rcases same with inside | same
  · rw [sobrescribir, sobrescribir, if_pos inside, if_pos inside]
  · rw [sobrescribir, sobrescribir, same]

theorem sobrescribir_congr {p p' : Plano} {f g : Archivo} {base : Nat} {bytes : Bytes}
    (same : p' g = p g) : sobrescribir p' f base bytes g = sobrescribir p f base bytes g := by
  funext i
  simp only [sobrescribir, same]

theorem sobrescribir_append (p : Plano) (f : Archivo) (base : Nat) (a b : Bytes) :
    sobrescribir (sobrescribir p f base a) f (base + a.length) b =
      sobrescribir p f base (a ++ b) := by
  funext g i
  by_cases hg : g = f
  · simp only [sobrescribir, hg, true_and, List.length_append]
    by_cases first : base ≤ i ∧ i < base + a.length
    · rw [if_neg (by omega), if_pos first, if_pos (by omega),
        List.getElem?_append_left (by omega)]
    · by_cases second : base + a.length ≤ i ∧ i < base + a.length + b.length
      · rw [if_pos second, if_pos (by omega), List.getElem?_append_right (by omega)]
        congr 1
        omega
      · rw [if_neg second, if_neg first, if_neg (by omega)]
  · simp [sobrescribir, hg]

/-- Byte i of a File:Tag as the Worker sees it. -/
def byteEn (srv : Servidor σ) (cfg : ConfigMemoria) (n : Nodo σ) : Plano := fun f i =>
  (vista srv n (f, i / cfg.tamanioPagina)).bind fun pagina => pagina[i % cfg.tamanioPagina]?

theorem byteEn_congr (same : MismaVista srv propios n n') (own : propios f) :
    byteEn srv cfg n' f = byteEn srv cfg n f := by
  funext i
  simp only [byteEn, same f own]

theorem dentro_de_pagina (cfg : ConfigMemoria) {despl largo : Nat}
    (fits : despl + largo ≤ cfg.tamanioPagina) (i k : Nat) :
    (i / cfg.tamanioPagina = k ∧ despl ≤ i % cfg.tamanioPagina ∧
        i % cfg.tamanioPagina < despl + largo) ↔
      k * cfg.tamanioPagina + despl ≤ i ∧ i < k * cfg.tamanioPagina + despl + largo := by
  have parts := Nat.div_add_mod' i cfg.tamanioPagina
  constructor
  · rintro ⟨rfl, low, high⟩
    omega
  · rintro ⟨low, high⟩
    have next : (k + 1) * cfg.tamanioPagina = k * cfg.tamanioPagina + cfg.tamanioPagina :=
      Nat.succ_mul k _
    have page : i / cfg.tamanioPagina = k := Nat.div_eq_of_lt_le (by omega) (by omega)
    rw [page] at parts
    exact ⟨page, by omega, by omega⟩

theorem tocarPagina_lectura (cfg : ConfigMemoria) (mem : Memoria) (m : Nat) :
    MismasPaginas mem (tocarPagina cfg mem m false) := ⟨rfl, rfl, rfl⟩

def escribirPagina (cfg : ConfigMemoria) (mem : Memoria) (m despl : Nat) (parcial : Bytes) :
    Memoria :=
  copiarEnMarco (tocarPagina cfg mem m true) m despl parcial

def conParcial (pagina : Bytes) (despl : Nat) (parcial : Bytes) : Bytes :=
  pagina.take despl ++ parcial ++ pagina.drop (despl + parcial.length)

theorem conParcial_length {pagina parcial : Bytes} {despl : Nat}
    (fits : despl + parcial.length ≤ pagina.length) :
    (conParcial pagina despl parcial).length = pagina.length := by
  simp only [conParcial, List.length_append, List.length_take, List.length_drop]
  omega

theorem conParcial_get {pagina parcial : Bytes} {despl : Nat}
    (fits : despl + parcial.length ≤ pagina.length) (i : Nat) :
    (conParcial pagina despl parcial)[i]? =
      if despl ≤ i ∧ i < despl + parcial.length then parcial[i - despl]? else pagina[i]? := by
  have head : (pagina.take despl).length = despl := by
    rw [List.length_take]
    omega
  unfold conParcial
  by_cases before : i < despl
  · rw [if_neg (by omega), List.append_assoc, List.getElem?_append_left (by omega),
      List.getElem?_take_of_lt before]
  · by_cases inside : i < despl + parcial.length
    · rw [if_pos (by omega), List.append_assoc, List.getElem?_append_right (by omega), head,
        List.getElem?_append_left (by omega)]
    · rw [if_neg (by omega), List.getElem?_append_right (by simp; omega), List.getElem?_drop]
      congr 1
      simp
      omega

theorem escribirPagina_marcos (cfg : ConfigMemoria) (he : mem.marcos m = some e) (despl : Nat)
    (parcial : Bytes) : (escribirPagina cfg mem m despl parcial).marcos =
      Function.update mem.marcos m (some { e with modificada := true }) := by
  simp [escribirPagina, copiarEnMarco, tocarPagina, he]

theorem escribirPagina_arena (cfg : ConfigMemoria) (mem : Memoria) (m despl : Nat)
    (parcial : Bytes) : (escribirPagina cfg mem m despl parcial).arena =
      Function.update mem.arena m (conParcial (mem.arena m) despl parcial) := rfl

theorem ordenada_escribir (ord : Ordenada cfg mem) (he : mem.marcos m = some e) (despl : Nat)
    (parcial : Bytes) : Ordenada cfg (escribirPagina cfg mem m despl parcial) := by
  have frames := escribirPagina_marcos cfg he despl parcial
  have old : ∀ {m' e'}, (escribirPagina cfg mem m despl parcial).marcos m' = some e' →
      ∃ e₀, mem.marcos m' = some e₀ ∧ e₀.archivo = e'.archivo ∧
        e₀.numeroPagina = e'.numeroPagina := by
    intro m' e' h
    rw [frames] at h
    by_cases same : m' = m
    · subst same
      rw [Function.update_self, Option.some.injEq] at h
      subst h
      exact ⟨e, he, rfl, rfl⟩
    · rw [Function.update_of_ne same] at h
      exact ⟨e', h, rfl, rfl⟩
  refine ⟨fun clave m' => ?_, ord.sinRepetir, ?_, ?_⟩
  · refine (ord.tabla clave m').trans ⟨?_, ?_⟩
    · rintro ⟨e', he', key⟩
      rw [frames]
      by_cases same : m' = m
      · subst same
        cases he.symm.trans he'
        exact ⟨_, Function.update_self .., key⟩
      · exact ⟨e', by rwa [Function.update_of_ne same], key⟩
    · rintro ⟨e', he', key⟩
      obtain ⟨e₀, h₀, file, _⟩ := old he'
      exact ⟨e₀, h₀, by rw [file, key]⟩
  · intro m₁ m₂ e₁ e₂ h₁ h₂ file num
    obtain ⟨a, ha, fileA, numA⟩ := old h₁
    obtain ⟨b, hb, fileB, numB⟩ := old h₂
    exact ord.unica m₁ m₂ a b ha hb (by rw [fileA, fileB, file]) (by rw [numA, numB, num])
  · intro m' e' h
    obtain ⟨e₀, h₀, _⟩ := old h
    exact ord.rango m' e₀ h₀

theorem paginas_escribir (ord : Ordenada cfg mem) (he : mem.marcos m = some e) (despl : Nat)
    (parcial : Bytes) : paginas (escribirPagina cfg mem m despl parcial) =
      Function.update (paginas mem) (e.archivo, e.numeroPagina)
        (some ⟨conParcial (mem.arena m) despl parcial, true⟩) := by
  have after := ordenada_escribir ord he despl parcial
  have frames := escribirPagina_marcos cfg he despl parcial
  have here : (escribirPagina cfg mem m despl parcial).marcos m =
      some { e with modificada := true } := by rw [frames, Function.update_self]
  funext q
  by_cases hq : q = (e.archivo, e.numeroPagina)
  · subst hq
    have page := paginas_of_marco after here
    rw [escribirPagina_arena, Function.update_self] at page
    rw [Function.update_self]
    exact page
  · rw [Function.update_of_ne hq]
    apply Option.ext
    intro line
    rw [paginas_some after, paginas_some ord, frames, escribirPagina_arena]
    constructor
    · rintro ⟨m', e', he', file, num, rfl⟩
      by_cases same : m' = m
      · subst same
        rw [Function.update_self, Option.some.injEq] at he'
        subst he'
        exact (hq (Prod.ext file.symm num.symm)).elim
      · rw [Function.update_of_ne same] at he' ⊢
        exact ⟨m', e', he', file, num, rfl⟩
    · rintro ⟨m', e', he', file, num, rfl⟩
      have same : m' ≠ m := by
        rintro rfl
        cases he.symm.trans he'
        exact hq (Prod.ext file.symm num.symm)
      exact ⟨m', e', by rwa [Function.update_of_ne same], file, num,
        by rw [Function.update_of_ne same]⟩

theorem lruAlDia_escribir (dia : LruAlDia cfg mem) (he : mem.marcos m = some e) (despl : Nat)
    (parcial : Bytes) : LruAlDia cfg (escribirPagina cfg mem m despl parcial) := by
  intro lru
  obtain ⟨nodup, names⟩ := dia lru
  refine ⟨nodup, fun m' => ?_⟩
  rw [escribirPagina_marcos cfg he]
  by_cases same : m' = m
  · subst same
    rw [Function.update_self]
    exact (names m').trans (by simp [he])
  · rw [Function.update_of_ne same]
    exact names m'

theorem vista_escribir (ord : Ordenada cfg n.mem) (he : n.mem.marcos m = some e) (despl : Nat)
    (parcial : Bytes) :
    vista srv { n with mem := escribirPagina cfg n.mem m despl parcial } =
      Function.update (vista srv n) (e.archivo, e.numeroPagina)
        (some (conParcial (n.mem.arena m) despl parcial)) := by
  rw [vista, paginas_escribir ord he despl parcial]
  exact view_put _

theorem largas_escribir (ord : Ordenada cfg mem) (he : mem.marcos m = some e) {despl : Nat}
    {parcial : Bytes} (fits : despl + parcial.length ≤ cfg.tamanioPagina)
    (sizes : ∀ q line, paginas mem q = some line → line.value.length = cfg.tamanioPagina) :
    ∀ q line, paginas (escribirPagina cfg mem m despl parcial) q = some line →
      line.value.length = cfg.tamanioPagina := by
  have size : (mem.arena m).length = cfg.tamanioPagina := sizes _ _ (paginas_of_marco ord he)
  intro q line hl
  rw [paginas_escribir ord he] at hl
  by_cases hq : q = (e.archivo, e.numeroPagina)
  · subst hq
    rw [Function.update_self, Option.some.injEq] at hl
    rw [← hl]
    exact (conParcial_length (size.symm ▸ fits)).trans size
  · rw [Function.update_of_ne hq] at hl
    exact sizes q line hl

theorem firme_escribir (firme : FirmeEn srv cfg Bueno propios n) (he : n.mem.marcos m = some e)
    {despl : Nat} {parcial : Bytes} (fits : despl + parcial.length ≤ cfg.tamanioPagina) :
    let n' := { n with mem := escribirPagina cfg n.mem m despl parcial }
    FirmeEn srv cfg Bueno propios n' ∧ byteEn srv cfg n' =
      sobrescribir (byteEn srv cfg n) e.archivo
        (e.numeroPagina * cfg.tamanioPagina + despl) parcial := by
  have ord := firme.ordenada
  have there := paginas_of_marco ord he
  have size : (n.mem.arena m).length = cfg.tamanioPagina := firme.largas _ _ there
  have page := paginas_escribir ord he despl parcial
  have sizes := largas_escribir ord he fits firme.largas
  rw [← size] at fits
  refine ⟨⟨ordenada_escribir ord he despl parcial, sizes, firme.bueno, ?_, ?_⟩, ?_⟩
  · rw [page]
    exact fun f hf k => coherentAt_put (fun _ => firme.coherente f hf k) _
  · rw [page]
    exact fun f hf k => backedAt_put (firme.respaldada f hf k) there _
  · funext g i
    simp only [byteEn, sobrescribir, vista_escribir ord he]
    have where_ := dentro_de_pagina cfg (size ▸ fits) i e.numeroPagina
    by_cases hq : (g, i / cfg.tamanioPagina) = (e.archivo, e.numeroPagina)
    · rw [hq, Function.update_self, Option.bind_some, conParcial_get fits]
      obtain ⟨rfl, num⟩ := Prod.mk.injEq .. ▸ hq
      have old : vista srv n (e.archivo, e.numeroPagina) = some (n.mem.arena m) := by
        simp [vista, view, there]
      simp only [num, true_and] at where_
      rw [old, Option.bind_some]
      by_cases inside : despl ≤ i % cfg.tamanioPagina ∧
          i % cfg.tamanioPagina < despl + parcial.length
      · have place := where_.mp inside
        have parts := Nat.div_add_mod' i cfg.tamanioPagina
        rw [if_pos inside, if_pos ⟨rfl, place⟩]
        rw [num] at parts
        congr 1
        omega
      · rw [if_neg inside, if_neg fun h => inside (where_.mpr h.2)]
    · rw [Function.update_of_ne hq, if_neg]
      rintro ⟨rfl, place⟩
      exact hq (Prod.ext rfl (where_.mpr place).1)

end WorkerAccesos
