import Mathlib.Data.List.Nodup
import MasterOfFiles.Lib.WriteBack
import MasterOfFiles.Worker.Memoria

/-!
The page tables of a Worker as a write-back cache over the blocks of Storage. Searching,
flushing, evicting and loading pages is upkeep of that cache as long as Storage takes every
page it is sent.
-/
namespace WorkerPaginas
open StorageEstado StorageEscritura WorkerMemoria WriteBack Relation

variable {σ : Type} {srv : Servidor σ} {cfg : ConfigMemoria} {mem mem' : Memoria}
  {n n' n'' : Nodo σ} {f g : Archivo} {k m : Nat} {e : EntradaPagina}

theorem claveFileTag_inj (h : claveFileTag f = claveFileTag g) : f = g := by
  obtain ⟨files, tags⟩ := clave_partes f.property g.property h
  have name (a b : Nombre) (same : a.texto = b.texto) : a = b := by
    cases a
    cases b
    simpa using same
  apply Subtype.ext
  calc f.val = ⟨f.val.file, f.val.tag⟩ := rfl
    _ = ⟨g.val.file, g.val.tag⟩ := by rw [name _ _ files, name _ _ tags]

/-- Tables and frames name the same entries, and a page is in one frame at most. -/
structure Ordenada (cfg : ConfigMemoria) (mem : Memoria) : Prop where
  tabla : ∀ clave m, m ∈ mem.tablasPaginas clave ↔
    ∃ e, mem.marcos m = some e ∧ claveFileTag e.archivo = clave
  sinRepetir : ∀ clave, (mem.tablasPaginas clave).Nodup
  unica : ∀ m m' e e', mem.marcos m = some e → mem.marcos m' = some e' →
    e.archivo = e'.archivo → e.numeroPagina = e'.numeroPagina → m = m'
  rango : ∀ m e, mem.marcos m = some e → m < cfg.cantidadMarcos

theorem ordenada_crearMemoria (cfg : ConfigMemoria) : Ordenada cfg (crearMemoria cfg) := by
  constructor <;> simp [crearMemoria]

theorem entradaDe_some (ord : Ordenada cfg mem) : entradaDe mem f k = some m ↔
    ∃ e, mem.marcos m = some e ∧ e.archivo = f ∧ e.numeroPagina = k := by
  have here : ∀ m, (m ∈ mem.tablasPaginas (claveFileTag f) ∧
      ((mem.marcos m).any fun e => e.numeroPagina == k) = true) ↔
      ∃ e, mem.marcos m = some e ∧ e.archivo = f ∧ e.numeroPagina = k := by
    intro m
    rw [ord.tabla]
    constructor
    · rintro ⟨⟨e, he, key⟩, found⟩
      exact ⟨e, he, claveFileTag_inj key, by simpa [he] using found⟩
    · rintro ⟨e, he, rfl, rfl⟩
      exact ⟨⟨e, he, rfl⟩, by simp [he]⟩
  have found : ∀ {m}, entradaDe mem f k = some m →
      ∃ e, mem.marcos m = some e ∧ e.archivo = f ∧ e.numeroPagina = k := by
    intro m h
    unfold entradaDe at h
    have holds := List.find?_some h
    exact (here m).mp ⟨List.mem_of_find?_eq_some h, holds⟩
  constructor
  · exact found
  · intro there
    have some_ : (entradaDe mem f k).isSome = true :=
      List.find?_isSome.mpr ⟨m, (here m).mpr there⟩
    obtain ⟨m', hm'⟩ := Option.isSome_iff_exists.mp some_
    obtain ⟨e', he', file', num'⟩ := found hm'
    obtain ⟨e, he, file, num⟩ := there
    rw [hm', ord.unica m' m e' e he' he (file'.trans file.symm) (num'.trans num.symm)]

theorem entradaDe_none (ord : Ordenada cfg mem) (absent : entradaDe mem f k = none) {m : Nat}
    (he : mem.marcos m = some e) : ¬(e.archivo = f ∧ e.numeroPagina = k) := by
  rintro ⟨file, num⟩
  rw [(entradaDe_some ord).mpr ⟨e, he, file, num⟩] at absent
  contradiction

def paginas (mem : Memoria) : Cache (Archivo × Nat) Bytes := fun q =>
  (entradaDe mem q.1 q.2).bind fun m => (mem.marcos m).map fun e => ⟨mem.arena m, e.modificada⟩

theorem paginas_some (ord : Ordenada cfg mem) {q : Archivo × Nat} {line : Line Bytes} :
    paginas mem q = some line ↔ ∃ m e, mem.marcos m = some e ∧ e.archivo = q.1 ∧
      e.numeroPagina = q.2 ∧ line = ⟨mem.arena m, e.modificada⟩ := by
  simp only [paginas, Option.bind_eq_some_iff, Option.map_eq_some_iff, entradaDe_some ord]
  constructor
  · rintro ⟨m, ⟨e, he, file, num⟩, e', he', rfl⟩
    cases he.symm.trans he'
    exact ⟨m, e, he, file, num, rfl⟩
  · rintro ⟨m, e, he, file, num, rfl⟩
    exact ⟨m, ⟨e, he, file, num⟩, e, he, rfl⟩

theorem paginas_of_marco (ord : Ordenada cfg mem) (he : mem.marcos m = some e) :
    paginas mem (e.archivo, e.numeroPagina) = some ⟨mem.arena m, e.modificada⟩ :=
  (paginas_some ord).mpr ⟨m, e, he, rfl, rfl, rfl⟩

def bloques (srv : Servidor σ) (s : σ) : Store (Archivo × Nat) Bytes := fun q =>
  srv.leerBloque s q.1.val q.2

structure MismasPaginas (mem mem' : Memoria) : Prop where
  arena : mem'.arena = mem.arena
  marcos : mem'.marcos = mem.marcos
  tablas : mem'.tablasPaginas = mem.tablasPaginas

theorem mismasPaginas_refl (mem : Memoria) : MismasPaginas mem mem := ⟨rfl, rfl, rfl⟩

theorem ordenada_mismas (same : MismasPaginas mem mem') (ord : Ordenada cfg mem) :
    Ordenada cfg mem' := by
  constructor
  · rw [same.tablas, same.marcos]
    exact ord.tabla
  · rw [same.tablas]
    exact ord.sinRepetir
  · rw [same.marcos]
    exact ord.unica
  · rw [same.marcos]
    exact ord.rango

theorem paginas_mismas (same : MismasPaginas mem mem') : paginas mem' = paginas mem := by
  funext q
  simp only [paginas, entradaDe, same.arena, same.marcos, same.tablas]

theorem buscarPagina_spec (cfg : ConfigMemoria) (mem : Memoria) (f : Archivo) (k : Nat) :
    (buscarPagina cfg mem f k).1 = entradaDe mem f k ∧
      MismasPaginas mem (buscarPagina cfg mem f k).2 := by
  unfold buscarPagina
  split
  · rename_i h
    exact ⟨h.symm, mismasPaginas_refl mem⟩
  · rename_i m h
    refine ⟨h.symm, ?_⟩
    dsimp only
    split <;> exact ⟨rfl, rfl, rfl⟩

def limpia (e : EntradaPagina) : EntradaPagina := { e with modificada := false }

def paginaSucia (mem : Memoria) (m : Nat) : Option Pagina :=
  (mem.marcos m).bind fun e =>
    if e.modificada then some ((e.numeroPagina : Int), mem.arena m) else none

theorem tomarModificada_spec (cfg : ConfigMemoria) (mem : Memoria) (paquete : List Pagina)
    (m : Nat) : let r := tomarModificada cfg (mem, paquete) m
    (r.1.arena = mem.arena ∧ r.1.tablasPaginas = mem.tablasPaginas ∧
      r.1.lruList = mem.lruList) ∧
    r.1.marcos = Function.update mem.marcos m ((mem.marcos m).map limpia) ∧
    r.2 = paquete ++ (paginaSucia mem m).toList := by
  simp only [tomarModificada, paginaSucia]
  cases he : mem.marcos m with
  | none => simp [he]
  | some e =>
    obtain ⟨archivo, numero, modificada⟩ := e
    cases modificada with
    | true => simp [limpia]
    | false => simp [limpia, he]

theorem tomarModificada_bucle (cfg : ConfigMemoria) (tabla : List Nat) :
    ∀ (mem : Memoria) (paquete : List Pagina), tabla.Nodup →
      let r := tabla.foldl (tomarModificada cfg) (mem, paquete)
      (r.1.arena = mem.arena ∧ r.1.tablasPaginas = mem.tablasPaginas ∧
        r.1.lruList = mem.lruList) ∧
      (∀ m, r.1.marcos m = if m ∈ tabla then (mem.marcos m).map limpia else mem.marcos m) ∧
      r.2 = paquete ++ tabla.filterMap (paginaSucia mem) := by
  induction tabla with
  | nil => intro mem paquete _; simp
  | cons m rest ih =>
    intro mem paquete nodup
    obtain ⟨fresh, nodup⟩ := List.nodup_cons.mp nodup
    obtain ⟨fields, frames, sent⟩ := tomarModificada_spec cfg mem paquete m
    rw [List.foldl_cons]
    generalize tomarModificada cfg (mem, paquete) m = turn at fields frames sent ⊢
    obtain ⟨mem₁, paquete₁⟩ := turn
    dsimp only at fields frames sent
    obtain ⟨rfields, rframes, packet⟩ := ih mem₁ paquete₁ nodup
    refine ⟨⟨rfields.1.trans fields.1, rfields.2.1.trans fields.2.1,
      rfields.2.2.trans fields.2.2⟩, ?_, ?_⟩
    · intro m'
      rw [rframes, frames]
      by_cases hm : m' = m
      · subst hm
        simp [fresh]
      · simp [hm]
    · have same : rest.filterMap (paginaSucia mem₁) = rest.filterMap (paginaSucia mem) := by
        refine List.filterMap_congr fun m' hm' => ?_
        have other : m' ≠ m := fun same => fresh (same ▸ hm')
        simp only [paginaSucia, frames, Function.update_of_ne other, fields.1]
      rw [packet, same, sent, List.append_assoc, List.filterMap_cons]
      cases paginaSucia mem m <;> simp

def limpiaDe (f : Archivo) (e : EntradaPagina) : EntradaPagina :=
  if e.archivo = f then limpia e else e

theorem limpiaDe_pagina (f : Archivo) (e : EntradaPagina) :
    (limpiaDe f e).archivo = e.archivo ∧ (limpiaDe f e).numeroPagina = e.numeroPagina := by
  unfold limpiaDe
  split <;> exact ⟨rfl, rfl⟩

theorem paginasModificadas_spec (ord : Ordenada cfg mem) (f : Archivo) :
    let r := paginasModificadas cfg mem f
    (r.1.arena = mem.arena ∧ r.1.tablasPaginas = mem.tablasPaginas ∧
      r.1.lruList = mem.lruList) ∧
    (∀ m, r.1.marcos m = (mem.marcos m).map (limpiaDe f)) ∧
    r.2 = (mem.tablasPaginas (claveFileTag f)).filterMap (paginaSucia mem) := by
  obtain ⟨fields, frames, packet⟩ :=
    tomarModificada_bucle cfg (mem.tablasPaginas (claveFileTag f)) mem [] (ord.sinRepetir _)
  refine ⟨fields, fun m => ?_, packet⟩
  rw [paginasModificadas, frames]
  cases he : mem.marcos m with
  | none => simp
  | some e =>
    have listed : m ∈ mem.tablasPaginas (claveFileTag f) ↔ e.archivo = f := by
      rw [ord.tabla, he]
      constructor
      · rintro ⟨_, same, key⟩
        cases same
        exact claveFileTag_inj key
      · rintro rfl
        exact ⟨e, rfl, rfl⟩
    simp only [listed, Option.map_some, limpiaDe]
    split <;> rfl

theorem mem_paquete (ord : Ordenada cfg mem) {p : Pagina} :
    p ∈ (paginasModificadas cfg mem f).2 ↔
      ∃ (k : Nat) (b : Bytes), p = ((k : Int), b) ∧ paginas mem (f, k) = some ⟨b, true⟩ := by
  rw [(paginasModificadas_spec ord f).2.2, List.mem_filterMap]
  constructor
  · rintro ⟨m, listed, dirty⟩
    obtain ⟨e, he, key⟩ := (ord.tabla _ m).mp listed
    simp only [paginaSucia, he, Option.bind_some, Option.ite_none_right_eq_some,
      Option.some.injEq] at dirty
    have page := paginas_of_marco ord he
    rw [claveFileTag_inj key, dirty.1] at page
    exact ⟨e.numeroPagina, mem.arena m, dirty.2.symm, page⟩
  · rintro ⟨k, b, rfl, page⟩
    obtain ⟨m, e, he, rfl, rfl, line⟩ := (paginas_some ord).mp page
    simp only [Line.mk.injEq] at line
    exact ⟨m, (ord.tabla _ m).mpr ⟨e, he, rfl⟩, by simp [paginaSucia, he, ← line.2, line.1]⟩

structure Lote (cfg : ConfigMemoria) (ps : List Pagina) : Prop where
  distintas : ps.Pairwise fun p q => p.1 ≠ q.1
  largo : ∀ p ∈ ps, p.2.length = cfg.tamanioPagina

theorem lote_paquete (ord : Ordenada cfg mem)
    (largas : ∀ q line, paginas mem q = some line → line.value.length = cfg.tamanioPagina) :
    Lote cfg (paginasModificadas cfg mem f).2 := by
  constructor
  · rw [(paginasModificadas_spec ord f).2.2, List.pairwise_filterMap]
    refine (ord.sinRepetir (claveFileTag f)).imp_of_mem fun {m m'} hm hm' other p hp p' hp' => ?_
    obtain ⟨e, he, key⟩ := (ord.tabla _ m).mp hm
    obtain ⟨e', he', key'⟩ := (ord.tabla _ m').mp hm'
    simp only [paginaSucia, he, he', Option.bind_some, Option.ite_none_right_eq_some,
      Option.some.injEq] at hp hp'
    rw [← hp.2, ← hp'.2]
    intro same
    exact other (ord.unica m m' e e' he he' (claveFileTag_inj (key.trans key'.symm))
      (Int.ofNat.inj same))
  · intro p hp
    obtain ⟨k, b, rfl, page⟩ := (mem_paquete ord).mp hp
    exact largas _ _ page

theorem entradaDe_modificadas (ord : Ordenada cfg mem) (f g : Archivo) (k : Nat) :
    entradaDe (paginasModificadas cfg mem f).1 g k = entradaDe mem g k := by
  obtain ⟨fields, frames, _⟩ := paginasModificadas_spec ord f
  unfold entradaDe
  rw [fields.2.1]
  congr 1
  funext m
  rw [frames]
  cases mem.marcos m with
  | none => rfl
  | some e => simp [(limpiaDe_pagina f e).2]

theorem paginas_modificadas (ord : Ordenada cfg mem) (f : Archivo) :
    paginas (paginasModificadas cfg mem f).1 = cleaned (fun q => q.1 = f) (paginas mem) := by
  obtain ⟨fields, frames, _⟩ := paginasModificadas_spec ord f
  funext ⟨g, k⟩
  simp only [paginas, cleaned, entradaDe_modificadas ord f g k]
  cases hm : entradaDe mem g k with
  | none => simp
  | some m =>
    obtain ⟨e, he, rfl, _⟩ := (entradaDe_some ord).mp hm
    simp only [Option.bind_some, frames, he, Option.map_some, fields.1, limpiaDe]
    split <;> rfl

theorem ordenada_modificadas (ord : Ordenada cfg mem) (f : Archivo) :
    Ordenada cfg (paginasModificadas cfg mem f).1 := by
  obtain ⟨fields, frames, _⟩ := paginasModificadas_spec ord f
  have before : ∀ {m e}, (paginasModificadas cfg mem f).1.marcos m = some e →
      ∃ e₀, mem.marcos m = some e₀ ∧ e = limpiaDe f e₀ := by
    intro m e he
    rw [frames, Option.map_eq_some_iff] at he
    obtain ⟨e₀, h₀, rfl⟩ := he
    exact ⟨e₀, h₀, rfl⟩
  constructor
  · intro clave m
    rw [fields.2.1, ord.tabla]
    constructor
    · rintro ⟨e, he, key⟩
      exact ⟨limpiaDe f e, by rw [frames, he]; rfl, by rw [(limpiaDe_pagina f e).1, key]⟩
    · rintro ⟨e, he, key⟩
      obtain ⟨e₀, h₀, rfl⟩ := before he
      exact ⟨e₀, h₀, by rw [← key, (limpiaDe_pagina f e₀).1]⟩
  · rw [fields.2.1]
    exact ord.sinRepetir
  · intro m m' e e' he he' file num
    obtain ⟨e₀, h₀, rfl⟩ := before he
    obtain ⟨e₁, h₁, rfl⟩ := before he'
    rw [(limpiaDe_pagina f e₀).1, (limpiaDe_pagina f e₁).1] at file
    rw [(limpiaDe_pagina f e₀).2, (limpiaDe_pagina f e₁).2] at num
    exact ord.unica m m' e₀ e₁ h₀ h₁ file num
  · intro m e he
    obtain ⟨e₀, h₀, _⟩ := before he
    exact ord.rango m e₀ h₀

theorem ordenada_liberarMarco (ord : Ordenada cfg mem) (he : mem.marcos m = some e) :
    Ordenada cfg (liberarMarco mem m e) := by
  have still : ∀ {m' e'}, (liberarMarco mem m e).marcos m' = some e' →
      m' ≠ m ∧ mem.marcos m' = some e' := by
    intro m' e' h
    by_cases same : m' = m
    · simp [liberarMarco, same] at h
    · exact ⟨same, by simpa [liberarMarco, same] using h⟩
  constructor
  · intro clave m'
    simp only [liberarMarco]
    by_cases key : clave = claveFileTag e.archivo
    · subst key
      rw [Function.update_self, (ord.sinRepetir _).mem_erase_iff, ord.tabla]
      by_cases same : m' = m <;> simp [same]
    · rw [Function.update_of_ne key, ord.tabla]
      by_cases same : m' = m
      · subst same
        simp [he, Ne.symm key]
      · simp [same]
  · intro clave
    simp only [liberarMarco]
    by_cases key : clave = claveFileTag e.archivo
    · rw [key, Function.update_self]
      exact (ord.sinRepetir _).erase m
    · rw [Function.update_of_ne key]
      exact ord.sinRepetir clave
  · intro m₁ m₂ e₁ e₂ h₁ h₂
    exact ord.unica m₁ m₂ e₁ e₂ (still h₁).2 (still h₂).2
  · intro m' e' h
    exact ord.rango m' e' (still h).2

theorem paginas_liberarMarco (ord : Ordenada cfg mem) (he : mem.marcos m = some e) :
    paginas (liberarMarco mem m e) =
      Function.update (paginas mem) (e.archivo, e.numeroPagina) none := by
  have after := ordenada_liberarMarco ord he
  funext q
  apply Option.ext
  intro line
  rw [paginas_some after]
  by_cases hq : q = (e.archivo, e.numeroPagina)
  · subst hq
    simp only [Function.update_self, reduceCtorEq, iff_false, liberarMarco]
    rintro ⟨m', e', he', file, num, _⟩
    by_cases same : m' = m
    · simp [same] at he'
    · rw [Function.update_of_ne same] at he'
      exact same (ord.unica m' m e' e he' he file num)
  · rw [Function.update_of_ne hq, paginas_some ord]
    simp only [liberarMarco]
    constructor
    · rintro ⟨m', e', he', rest⟩
      by_cases same : m' = m
      · simp [same] at he'
      · rw [Function.update_of_ne same] at he'
        exact ⟨m', e', he', rest⟩
    · rintro ⟨m', e', he', file, num, rfl⟩
      by_cases same : m' = m
      · subst same
        cases he.symm.trans he'
        exact (hq (Prod.ext file.symm num.symm)).elim
      · exact ⟨m', e', by rwa [Function.update_of_ne same], file, num, rfl⟩

theorem ordenada_registrar (ord : Ordenada cfg mem) (libre : mem.marcos m = none)
    (hm : m < cfg.cantidadMarcos) (absent : entradaDe mem f k = none) (bloque : Bytes) :
    Ordenada cfg (registrarPagina cfg mem m f k bloque) := by
  have other : ∀ {m' e'}, (registrarPagina cfg mem m f k bloque).marcos m' = some e' →
      (m' = m ∧ e' = ⟨f, k, false⟩) ∨ (m' ≠ m ∧ mem.marcos m' = some e') := by
    intro m' e' h
    by_cases same : m' = m
    · subst same
      exact .inl ⟨rfl, by simpa [registrarPagina, eq_comm] using h⟩
    · exact .inr ⟨same, by simpa [registrarPagina, same] using h⟩
  have fresh : ∀ clave, m ∉ mem.tablasPaginas clave := by
    intro clave listed
    obtain ⟨e, he, _⟩ := (ord.tabla clave m).mp listed
    simp [libre] at he
  constructor
  · intro clave m'
    by_cases same : m' = m
    · subst same
      by_cases key : clave = claveFileTag f
      · simp [registrarPagina, key]
      · simp [registrarPagina, key, fresh clave, Ne.symm key]
    · have before := ord.tabla clave m'
      by_cases key : clave = claveFileTag f
      · subst key
        simpa [registrarPagina, same] using before
      · simpa [registrarPagina, same, key] using before
  · intro clave
    by_cases key : clave = claveFileTag f
    · subst key
      simp only [registrarPagina, Function.update_self]
      exact List.Nodup.append (ord.sinRepetir _) (List.nodup_singleton m)
        (by simpa using fresh (claveFileTag f))
    · simpa [registrarPagina, key] using ord.sinRepetir clave
  · intro m₁ m₂ e₁ e₂ h₁ h₂ file num
    rcases other h₁ with ⟨rfl, rfl⟩ | ⟨_, old₁⟩ <;> rcases other h₂ with ⟨rfl, rfl⟩ | ⟨_, old₂⟩
    · rfl
    · exact (entradaDe_none ord absent old₂ ⟨file.symm, num.symm⟩).elim
    · exact (entradaDe_none ord absent old₁ ⟨file, num⟩).elim
    · exact ord.unica m₁ m₂ e₁ e₂ old₁ old₂ file num
  · intro m' e' h
    rcases other h with ⟨rfl, _⟩ | ⟨_, h⟩
    · exact hm
    · exact ord.rango m' e' h

theorem paginas_registrar (ord : Ordenada cfg mem) (libre : mem.marcos m = none)
    (hm : m < cfg.cantidadMarcos) (absent : entradaDe mem f k = none) (bloque : Bytes) :
    paginas (registrarPagina cfg mem m f k bloque) =
      Function.update (paginas mem) (f, k) (some ⟨bloque.take cfg.tamanioPagina, false⟩) := by
  have after := ordenada_registrar ord libre hm absent bloque
  have here : (registrarPagina cfg mem m f k bloque).marcos m = some ⟨f, k, false⟩ := by
    simp [registrarPagina]
  funext q
  by_cases hq : q = (f, k)
  · subst hq
    rw [Function.update_self, paginas_of_marco after here]
    simp [registrarPagina]
  · rw [Function.update_of_ne hq]
    apply Option.ext
    intro line
    rw [paginas_some after, paginas_some ord]
    simp only [registrarPagina]
    constructor
    · rintro ⟨m', e', he', file, num, rfl⟩
      by_cases same : m' = m
      · subst same
        rw [Function.update_self, Option.some.injEq] at he'
        subst he'
        exact (hq (Prod.ext file.symm num.symm)).elim
      · rw [Function.update_of_ne same] at he' ⊢
        exact ⟨m', e', he', file, num, rfl⟩
    · rintro ⟨m', e', he', file, num, rfl⟩
      have same : m' ≠ m := by
        rintro rfl
        simp [libre] at he'
      refine ⟨m', e', ?_, file, num, ?_⟩
      · rwa [Function.update_of_ne same]
      · rw [Function.update_of_ne same]

end WorkerPaginas
