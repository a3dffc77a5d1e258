import MasterOfFiles.Worker.Paginas

/-!
The steps that the functions of memoria.c are made of, apart from the access itself, and the
page that obtenerPagina ends with. A frame for it is always found: the LRU list names every
loaded page, and after two turns of the clock no reference bit is left.
-/
namespace WorkerReemplazo
open StorageEstado StorageEscritura WorkerMemoria WorkerPaginas WriteBack Relation

variable {σ : Type} {srv : Servidor σ} {cfg : ConfigMemoria} {mem mem' : Memoria}
  {n n' n'' : Nodo σ} {f g : Archivo} {k m : Nat} {e : EntradaPagina}

inductive Paso (srv : Servidor σ) (cfg : ConfigMemoria) : Nodo σ → Nodo σ → Prop where
  | orden (n : Nodo σ) (mem : Memoria) (same : MismasPaginas n.mem mem) :
      Paso srv cfg n { n with mem := mem }
  | flush (n : Nodo σ) (f : Archivo) : Paso srv cfg n (flushPaginasModificadas srv cfg n f).2
  | libera (n : Nodo σ) (m : Nat) (e : EntradaPagina) (he : n.mem.marcos m = some e)
      (clean : e.modificada = false) : Paso srv cfg n { n with mem := liberarMarco n.mem m e }
  | carga (n : Nodo σ) (m : Nat) (f : Archivo) (k : Nat) (bloque : Bytes)
      (libre : n.mem.marcos m = none) (hm : m < cfg.cantidadMarcos)
      (absent : entradaDe n.mem f k = none) (hb : srv.leerBloque n.storage f.val k = some bloque) :
      Paso srv cfg n { n with mem := registrarPagina cfg n.mem m f k bloque }

abbrev Pasos (srv : Servidor σ) (cfg : ConfigMemoria) : Nodo σ → Nodo σ → Prop :=
  ReflTransGen (Paso srv cfg)

theorem flush_mem (srv : Servidor σ) (cfg : ConfigMemoria) (n : Nodo σ) (f : Archivo) :
    (flushPaginasModificadas srv cfg n f).2.mem = (paginasModificadas cfg n.mem f).1 := rfl

theorem ordenada_paso (step : Paso srv cfg n n') (ord : Ordenada cfg n.mem) :
    Ordenada cfg n'.mem := by
  cases step with
  | orden mem same => exact ordenada_mismas same ord
  | flush f => exact ordenada_modificadas ord f
  | libera m e he clean => exact ordenada_liberarMarco ord he
  | carga m f k bloque libre hm absent hb => exact ordenada_registrar ord libre hm absent bloque

theorem ordenada_pasos (steps : Pasos srv cfg n n') (ord : Ordenada cfg n.mem) :
    Ordenada cfg n'.mem := by
  induction steps with
  | refl => exact ord
  | tail _ step ih => exact ordenada_paso step ih

def SinNuevas (mem mem' : Memoria) : Prop :=
  ∀ m e', mem'.marcos m = some e' →
    ∃ e, mem.marcos m = some e ∧ e.archivo = e'.archivo ∧ e.numeroPagina = e'.numeroPagina

theorem entradaDe_sinNuevas (ord : Ordenada cfg mem) (after : Ordenada cfg mem')
    (old : SinNuevas mem mem') (absent : entradaDe mem f k = none) :
    entradaDe mem' f k = none := by
  cases h : entradaDe mem' f k with
  | none => rfl
  | some m =>
    obtain ⟨e', he', file', num'⟩ := (entradaDe_some after).mp h
    obtain ⟨e, he, file, num⟩ := old m e' he'
    exact (entradaDe_none ord absent he ⟨file.trans file', num.trans num'⟩).elim

structure Desalojada (srv : Servidor σ) (cfg : ConfigMemoria) (m : Nat) (n n' : Nodo σ) : Prop where
  pasos : Pasos srv cfg n n'
  libre : n'.mem.marcos m = none
  viejas : SinNuevas n.mem n'.mem
  ocupados : ∀ m', m' ≠ m → (n'.mem.marcos m').isSome = (n.mem.marcos m').isSome
  lru : n'.mem.lruList = n.mem.lruList

theorem desalojar_desalojada (ord : Ordenada cfg n.mem) (he : n.mem.marcos m = some e) :
    Desalojada srv cfg m n (desalojar srv cfg n m e) := by
  obtain ⟨archivo, numero, modificada⟩ := e
  cases modificada with
  | false =>
    refine ⟨.single (.libera n m _ he rfl), by simp [desalojar, liberarMarco], ?_, ?_, rfl⟩
    · intro m' e' h
      by_cases same : m' = m
      · simp [desalojar, liberarMarco, same] at h
      · exact ⟨e', by simpa [desalojar, liberarMarco, same] using h, rfl, rfl⟩
    · intro m' other
      simp [desalojar, liberarMarco, other]
  | true =>
    obtain ⟨fields, frames, _⟩ := paginasModificadas_spec ord archivo
    have cleaned_ : (paginasModificadas cfg n.mem archivo).1.marcos m =
        some ⟨archivo, numero, false⟩ := by
      rw [frames, he]
      simp [limpiaDe, limpia]
    refine ⟨.tail (.single (.flush n archivo)) (.libera _ m ⟨archivo, numero, false⟩ cleaned_ rfl),
      by simp [desalojar, liberarMarco], ?_, ?_, fields.2.2⟩
    · intro m' e' h
      by_cases same : m' = m
      · simp [desalojar, liberarMarco, same] at h
      · simp only [desalojar, liberarMarco, if_true, flush_mem, Function.update_of_ne same] at h
        rw [frames, Option.map_eq_some_iff] at h
        obtain ⟨e, h, rfl⟩ := h
        exact ⟨e, h, (limpiaDe_pagina archivo e).1.symm, (limpiaDe_pagina archivo e).2.symm⟩
    · intro m' other
      simp only [desalojar, liberarMarco, if_true, flush_mem, Function.update_of_ne other]
      rw [frames]
      exact Option.isSome_map

def LruAlDia (cfg : ConfigMemoria) (mem : Memoria) : Prop :=
  cfg.algoritmo = .lru →
    mem.lruList.Nodup ∧ ∀ m, m ∈ mem.lruList ↔ (mem.marcos m).isSome = true

theorem lruAlDia_crearMemoria (cfg : ConfigMemoria) : LruAlDia cfg (crearMemoria cfg) := by
  intro _
  simp [crearMemoria]

theorem encontrarMarcoLibre_none (full : encontrarMarcoLibre cfg mem = none) :
    ∀ m, m < cfg.cantidadMarcos → (mem.marcos m).isSome = true := by
  intro m hm
  have taken := List.find?_eq_none.mp full m (List.mem_range.mpr hm)
  simpa [Option.isSome_iff_ne_none] using taken

theorem cantidadMarcos_pos (cfg : ConfigMemoria) : 0 < cfg.cantidadMarcos :=
  Nat.div_pos cfg.un_marco cfg.pagina_pos

structure MarcoListo (srv : Servidor σ) (cfg : ConfigMemoria) (n : Nodo σ) (m : Nat)
    (n' : Nodo σ) : Prop where
  rango : m < cfg.cantidadMarcos
  pasos : Pasos srv cfg n n'
  libre : n'.mem.marcos m = none
  viejas : SinNuevas n.mem n'.mem
  dia : LruAlDia cfg n'.mem

theorem aplicarLru_spec (srv : Servidor σ) (ord : Ordenada cfg n.mem) (dia : LruAlDia cfg n.mem)
    (lru : cfg.algoritmo = .lru) (full : encontrarMarcoLibre cfg n.mem = none) :
    ∃ m n', aplicarLru srv cfg n = (some m, n') ∧ MarcoListo srv cfg n m n' := by
  obtain ⟨nodup, names⟩ := dia lru
  cases hl : n.mem.lruList with
  | nil =>
    have first := (names 0).mpr (encontrarMarcoLibre_none full 0 (cantidadMarcos_pos cfg))
    simp [hl] at first
  | cons victima resto =>
    rw [hl] at nodup names
    obtain ⟨e, he⟩ := Option.isSome_iff_exists.mp ((names victima).mp List.mem_cons_self)
    have same : MismasPaginas n.mem { n.mem with lruList := resto } := ⟨rfl, rfl, rfl⟩
    have gone : Desalojada srv cfg victima { n with mem := { n.mem with lruList := resto } }
        (desalojar srv cfg { n with mem := { n.mem with lruList := resto } } victima e) :=
      desalojar_desalojada (ordenada_mismas same ord) he
    refine ⟨victima, _, by simp only [aplicarLru, hl, he], ord.rango _ _ he,
      .head (.orden n _ same) gone.pasos, gone.libre, gone.viejas, fun _ => ?_⟩
    obtain ⟨fresh, nodup⟩ := List.nodup_cons.mp nodup
    rw [gone.lru]
    refine ⟨nodup, fun m => ?_⟩
    by_cases hm : m = victima
    · subst hm
      simpa [gone.libre] using fresh
    · rw [gone.ocupados m hm, ← names m, List.mem_cons]
      simp [hm]

theorem mem_vuelta (cfg : ConfigMemoria) (inicio : Nat) (hm : m ∈ vuelta cfg inicio) :
    m < cfg.cantidadMarcos := by
  obtain ⟨i, _, rfl⟩ := List.mem_map.mp hm
  exact Nat.mod_lt _ (cantidadMarcos_pos cfg)

theorem segundaVuelta_spec (turno : List Nat) : ∀ mem : Memoria,
    MismasPaginas mem (segundaVuelta mem turno).2 ∧
      (∀ m, (segundaVuelta mem turno).1 = some m → m ∈ turno) ∧
      (∀ m, mem.bitsReferencia m = false → (segundaVuelta mem turno).2.bitsReferencia m = false) ∧
      ((segundaVuelta mem turno).1 = none →
        ∀ m ∈ turno, (segundaVuelta mem turno).2.bitsReferencia m = false) := by
  induction turno with
  | nil => intro mem; exact ⟨mismasPaginas_refl mem, by simp [segundaVuelta], fun _ h => h, by simp⟩
  | cons a rest ih =>
    intro mem
    by_cases stop : mem.bitsReferencia a = false ∧ mem.bitsModificados a = true
    · simp only [segundaVuelta, stop, and_self, if_true]
      exact ⟨mismasPaginas_refl mem, by simp, fun _ h => h, by simp⟩
    · simp only [segundaVuelta, stop, if_false]
      obtain ⟨same, inside, still, reset⟩ :=
        ih { mem with bitsReferencia := Function.update mem.bitsReferencia a false }
      refine ⟨⟨same.arena, same.marcos, same.tablas⟩, fun m hm => List.mem_cons_of_mem a (inside m hm),
        ?_, ?_⟩
      · intro m hm
        refine still m ?_
        by_cases same : m = a <;> simp [same, hm]
      · intro missed m hm
        rcases List.mem_cons.mp hm with rfl | hm
        · exact still m (by simp)
        · exact reset missed m hm

theorem elegirVictima_spec (cfg : ConfigMemoria) (mem : Memoria) :
    ∃ m, (elegirVictima cfg mem).1 = some m ∧ m < cfg.cantidadMarcos ∧
      MismasPaginas mem (elegirVictima cfg mem).2 := by
  obtain ⟨same, inside, _, reset⟩ := segundaVuelta_spec (vuelta cfg mem.puntero) mem
  unfold elegirVictima
  dsimp only
  split
  · rename_i m hm
    exact ⟨m, rfl, mem_vuelta cfg _ (List.mem_of_find?_eq_some hm), mismasPaginas_refl mem⟩
  · split
    · rename_i m mem₁ turn
      rw [turn] at same inside
      exact ⟨m, rfl, mem_vuelta cfg _ (inside m rfl), same⟩
    · rename_i mem₁ turn
      rw [turn] at same reset
      -- no reference bit is left, so the last turn stops at once
      have head : (vuelta cfg mem.puntero)[0]? = some ((mem.puntero + 0) % cfg.cantidadMarcos) := by
        simp [vuelta, cantidadMarcos_pos cfg]
      have last : ((vuelta cfg mem.puntero).find? fun m => !mem₁.bitsReferencia m).isSome := by
        rw [List.find?_isSome]
        have listed := List.mem_of_getElem? head
        have off : mem₁.bitsReferencia _ = false := reset rfl _ listed
        exact ⟨_, listed, by rw [off]; rfl⟩
      obtain ⟨m, hm⟩ := Option.isSome_iff_exists.mp last
      cases clean : (vuelta cfg mem.puntero).find? fun m =>
          !mem₁.bitsReferencia m && !mem₁.bitsModificados m with
      | none => exact ⟨m, hm, mem_vuelta cfg _ (List.mem_of_find?_eq_some hm), same⟩
      | some v => exact ⟨v, rfl, mem_vuelta cfg _ (List.mem_of_find?_eq_some clean), same⟩

theorem clock_listo (srv : Servidor σ) (ord : Ordenada cfg n.mem)
    (clock : cfg.algoritmo = .clockM) (same : MismasPaginas n.mem mem)
    (he : mem.marcos m = some e) (referencia modificados : Nat → Bool) :
    let n' := desalojar srv cfg { n with mem := mem } m e
    MarcoListo srv cfg n m { n' with mem := { n'.mem with
      bitsReferencia := referencia, bitsModificados := modificados } } := by
  intro n'
  have there : Ordenada cfg mem := ordenada_mismas same ord
  have gone : Desalojada srv cfg m { n with mem := mem } n' := desalojar_desalojada there he
  refine ⟨there.rango m e he, ?_, gone.libre, ?_, fun lru => by simp [clock] at lru⟩
  · exact (ReflTransGen.head (.orden n mem same) gone.pasos).tail (.orden n' _ ⟨rfl, rfl, rfl⟩)
  · intro m' e' h
    obtain ⟨e₀, h₀, rest⟩ := gone.viejas m' e' h
    exact ⟨e₀, by rw [← same.marcos]; exact h₀, rest⟩

theorem aplicarClockM_spec (srv : Servidor σ) (ord : Ordenada cfg n.mem)
    (clock : cfg.algoritmo = .clockM) (full : encontrarMarcoLibre cfg n.mem = none) :
    ∃ m n', aplicarClockM srv cfg n = (some m, n') ∧ MarcoListo srv cfg n m n' := by
  have noFree : ((vuelta cfg n.mem.puntero).find? fun m => (n.mem.marcos m).isNone) = none := by
    rw [List.find?_eq_none]
    intro m hm
    have taken := encontrarMarcoLibre_none full m (mem_vuelta cfg _ hm)
    simpa [Option.isSome_iff_ne_none] using taken
  obtain ⟨m, chosen, hm, same⟩ := elegirVictima_spec cfg n.mem
  obtain ⟨e, he⟩ := Option.isSome_iff_exists.mp (encontrarMarcoLibre_none full m hm)
  unfold aplicarClockM
  rw [noFree]
  generalize elegirVictima cfg n.mem = turn at chosen same ⊢
  obtain ⟨victima, mem⟩ := turn
  dsimp only at chosen same
  subst chosen
  have there : mem.marcos m = some e := by rw [same.marcos, he]
  simp only [there]
  refine ⟨m, _, rfl, ?_⟩
  have moved : MismasPaginas n.mem { mem with puntero := (m + 1) % cfg.cantidadMarcos } :=
    ⟨same.arena, same.marcos, same.tablas⟩
  exact clock_listo srv ord clock moved there _ _

theorem marcoParaCargar_spec (srv : Servidor σ) (ord : Ordenada cfg n.mem)
    (dia : LruAlDia cfg n.mem) :
    ∃ m n', marcoParaCargar srv cfg n = (some m, n') ∧ MarcoListo srv cfg n m n' := by
  unfold marcoParaCargar
  cases found : encontrarMarcoLibre cfg n.mem with
  | some m =>
    have inside := List.mem_of_find?_eq_some found
    have free := List.find?_some found
    exact ⟨m, n, rfl, List.mem_range.mp inside, .refl, by simpa using free,
      fun _ e h => ⟨e, h, rfl, rfl⟩, dia⟩
  | none =>
    cases alg : cfg.algoritmo with
    | lru => exact aplicarLru_spec srv ord dia alg found
    | clockM => exact aplicarClockM_spec srv ord alg found

theorem lruAlDia_registrar (dia : LruAlDia cfg mem) (libre : mem.marcos m = none) (f : Archivo)
    (k : Nat) (bloque : Bytes) : LruAlDia cfg (registrarPagina cfg mem m f k bloque) := by
  intro lru
  obtain ⟨nodup, names⟩ := dia lru
  have fresh : m ∉ mem.lruList := by simp [names, libre]
  simp only [registrarPagina, lru, if_true]
  refine ⟨List.Nodup.append nodup (List.nodup_singleton m) (by simpa using fresh), fun m' => ?_⟩
  by_cases same : m' = m
  · simp [same]
  · simp [same, names]

theorem cargarPagina_spec (srv : Servidor σ) (ord : Ordenada cfg n.mem) (dia : LruAlDia cfg n.mem)
    (absent : entradaDe n.mem f k = none) :
    let r := cargarPagina srv cfg n f k
    Pasos srv cfg n r.2 ∧ LruAlDia cfg r.2.mem ∧
      (r.1 = none → srv.leerBloque r.2.storage f.val k = none) ∧
      (r.1 ≠ none → (entradaDe r.2.mem f k).isSome = true) := by
  obtain ⟨m, n₁, chosen, ready⟩ := marcoParaCargar_spec srv ord dia
  have ord₁ := ordenada_pasos ready.pasos ord
  have absent₁ := entradaDe_sinNuevas ord ord₁ ready.viejas absent
  simp only [cargarPagina, chosen]
  cases hb : srv.leerBloque n₁.storage f.val k with
  | none => exact ⟨ready.pasos, ready.dia, fun _ => hb, fun h => (h rfl).elim⟩
  | some bloque =>
    have load : Paso srv cfg n₁ { n₁ with mem := registrarPagina cfg n₁.mem m f k bloque } :=
      .carga n₁ m f k bloque ready.libre ready.rango absent₁ hb
    refine ⟨ready.pasos.tail load, lruAlDia_registrar ready.dia ready.libre f k bloque, by simp,
      fun _ => ?_⟩
    have there : (registrarPagina cfg n₁.mem m f k bloque).marcos m = some ⟨f, k, false⟩ := by
      simp [registrarPagina]
    rw [(entradaDe_some (ordenada_paso load ord₁)).mpr ⟨_, there, rfl, rfl⟩]
    rfl

theorem lruAlDia_buscar (dia : LruAlDia cfg mem) (ord : Ordenada cfg mem) (f : Archivo) (k : Nat) :
    LruAlDia cfg (buscarPagina cfg mem f k).2 := by
  unfold buscarPagina
  split
  · exact dia
  · rename_i m h
    obtain ⟨e, he, _⟩ := (entradaDe_some ord).mp h
    intro lru
    obtain ⟨nodup, names⟩ := dia lru
    simp only [lru, if_true]
    constructor
    · exact List.Nodup.append (nodup.erase m) (List.nodup_singleton m)
        (by simp [nodup.mem_erase_iff])
    · intro m'
      rw [List.mem_append, nodup.mem_erase_iff, List.mem_singleton, names]
      by_cases same : m' = m
      · simp [same, he]
      · simp [same]

theorem obtenerPagina_spec (srv : Servidor σ) (ord : Ordenada cfg n.mem)
    (dia : LruAlDia cfg n.mem) (f : Archivo) (k : Nat) :
    let r := obtenerPagina srv cfg n f k
    Pasos srv cfg n r.2 ∧ LruAlDia cfg r.2.mem ∧
      (∀ m, r.1 = some m →
        ∃ e, r.2.mem.marcos m = some e ∧ e.archivo = f ∧ e.numeroPagina = k) ∧
      (r.1 = none → entradaDe n.mem f k = none ∧
        srv.leerBloque r.2.storage f.val k = none) := by
  obtain ⟨found, same⟩ := buscarPagina_spec cfg n.mem f k
  have dia₁ := lruAlDia_buscar dia ord f k
  unfold obtenerPagina
  generalize buscarPagina cfg n.mem f k = search at found same dia₁ ⊢
  obtain ⟨hit, mem⟩ := search
  dsimp only at found same dia₁
  subst found
  cases hit : entradaDe n.mem f k with
  | some m =>
    obtain ⟨e, he, page⟩ := (entradaDe_some ord).mp hit
    refine ⟨.single (.orden n mem same), dia₁, ?_, by simp⟩
    intro m' hm'
    cases hm'
    exact ⟨e, by rw [same.marcos]; exact he, page⟩
  | none =>
    obtain ⟨steps, dia₂, missing, loaded⟩ := cargarPagina_spec srv ord dia hit
    generalize cargarPagina srv cfg n f k = load at steps dia₂ missing loaded ⊢
    obtain ⟨marco, n₁⟩ := load
    dsimp only at steps dia₂ missing loaded ⊢
    cases marco with
    | none => exact ⟨steps, dia₂, by simp, fun _ => ⟨rfl, missing rfl⟩⟩
    | some _ =>
      have ord₁ := ordenada_pasos steps ord
      obtain ⟨m, hm⟩ := Option.isSome_iff_exists.mp (loaded (by simp))
      obtain ⟨found, same⟩ := buscarPagina_spec cfg n₁.mem f k
      have dia₃ := lruAlDia_buscar dia₂ ord₁ f k
      dsimp only
      generalize buscarPagina cfg n₁.mem f k = search at found same dia₃ ⊢
      obtain ⟨again, mem'⟩ := search
      dsimp only at found same dia₃
      rw [hm] at found
      subst found
      obtain ⟨e, he, page⟩ := (entradaDe_some ord₁).mp hm
      refine ⟨steps.tail (.orden n₁ mem' same), dia₃, ?_, by simp⟩
      intro m' hm'
      cases hm'
      exact ⟨e, by rw [same.marcos]; exact he, page⟩

end WorkerReemplazo
