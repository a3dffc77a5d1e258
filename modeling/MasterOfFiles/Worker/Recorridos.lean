import MasterOfFiles.Worker.Accesos

/-!
The loop of acceder_memoria: what it wrote or read so far is a prefix of the access, and it
reaches the end when Storage has every page of it.
-/
namespace WorkerRecorridos
open StorageEstado StorageEscritura WorkerMemoria WorkerPaginas WorkerReemplazo WorkerCoherencia
open WorkerAccesos WriteBack Relation

variable {σ : Type} {srv : Servidor σ} {cfg : ConfigMemoria} {Bueno : σ → Prop}
  {n n' : Nodo σ} {f g : Archivo} {k m : Nat} {e : EntradaPagina} {propios : Archivo → Prop}

inductive Movimiento (srv : Servidor σ) (cfg : ConfigMemoria) : Nodo σ → Nodo σ → Prop where
  | paso {n n' : Nodo σ} (step : Paso srv cfg n n') : Movimiento srv cfg n n'
  | escribe {n : Nodo σ} {m : Nat} {e : EntradaPagina} (he : n.mem.marcos m = some e)
      (despl : Nat) (parcial : Bytes) :
      Movimiento srv cfg n { n with mem := escribirPagina cfg n.mem m despl parcial }

abbrev Movimientos (srv : Servidor σ) (cfg : ConfigMemoria) : Nodo σ → Nodo σ → Prop :=
  ReflTransGen (Movimiento srv cfg)

theorem movimientos_rechazados (moves : Movimientos srv cfg n n') :
    n.rechazados <+: n'.rechazados := by
  induction moves with
  | refl => exact List.prefix_refl _
  | tail _ move ih =>
    cases move with
    | paso step => exact ih.trans (paso_rechazados step)
    | escribe he despl parcial => exact ih

theorem movimientos_aceptados {Ok : σ → Prop}
    (accepts : ∀ s f ps, Ok s → (srv.flush s f ps ps.length).1 = true ∧
      Ok (srv.flush s f ps ps.length).2)
    (moves : Movimientos srv cfg n n') (ok : Ok n.storage) :
    n'.rechazados = n.rechazados ∧ Ok n'.storage := by
  induction moves with
  | refl => exact ⟨rfl, ok⟩
  | tail _ move ih =>
    obtain ⟨same, ok⟩ := ih
    cases move with
    | paso step =>
      obtain ⟨same', ok⟩ := pasos_aceptados accepts (.single step) ok
      exact ⟨same'.trans same, ok⟩
    | escribe he despl parcial => exact ⟨same, ok⟩

def enPagina (cfg : ConfigMemoria) (despl restantes : Nat) : Nat :=
  if cfg.tamanioPagina < despl + restantes then cfg.tamanioPagina - despl else restantes

theorem enPagina_le {despl : Nat} (restantes : Nat) (inside : despl < cfg.tamanioPagina) :
    enPagina cfg despl restantes ≤ restantes ∧
      despl + enPagina cfg despl restantes ≤ cfg.tamanioPagina ∧
      (enPagina cfg despl restantes = restantes ∨
        despl + enPagina cfg despl restantes = cfg.tamanioPagina) := by
  unfold enPagina
  split <;> omega

theorem recorrer_turno (f : Archivo) (escritura : Option Bytes) {restantes : Nat}
    (more : restantes ≠ 0) (paginas pagina despl procesados : Nat) (leido : Bytes) (n : Nodo σ) :
    recorrerPaginas srv cfg f escritura (paginas + 1) pagina despl restantes procesados leido n =
      match obtenerPagina srv cfg n f pagina with
      | (none, n) => ⟨n, leido, procesados, false⟩
      | (some m, n) =>
        recorrerPaginas srv cfg f escritura paginas (pagina + 1) 0
          (restantes - enPagina cfg despl restantes) (procesados + enPagina cfg despl restantes)
          (leido ++ (escritura.elim
            (((n.mem.arena m).drop despl).take (enPagina cfg despl restantes)) fun _ => []))
          { n with
            mem := escritura.elim (tocarPagina cfg n.mem m false) fun contenido =>
              escribirPagina cfg n.mem m despl
                ((contenido.drop procesados).take (enPagina cfg despl restantes)) } := by
  rw [recorrerPaginas, if_neg more]
  generalize obtenerPagina srv cfg n f pagina = turn
  obtain ⟨marco, n₁⟩ := turn
  cases marco with
  | none => rfl
  | some m =>
    cases escritura with
    | none => rfl
    | some contenido => simp [enPagina, escribirPagina]

theorem recorrer_final (f : Archivo) (escritura : Option Bytes)
    (paginas pagina despl procesados : Nat) (leido : Bytes) (n : Nodo σ) :
    recorrerPaginas srv cfg f escritura paginas pagina despl 0 procesados leido n =
      ⟨n, leido, procesados, true⟩ := by
  cases paginas <;> simp [recorrerPaginas]

theorem recorrer_invariante {inv : Nodo σ → Prop} (f : Archivo) (escritura : Option Bytes)
    (pasa : ∀ n n', Ordenada cfg n.mem → inv n → Paso srv cfg n n' → inv n')
    (escribe : ∀ (n : Nodo σ) m e despl parcial, Ordenada cfg n.mem →
      n.mem.marcos m = some e → e.archivo = f → despl + parcial.length ≤ cfg.tamanioPagina →
      inv n → inv { n with mem := escribirPagina cfg n.mem m despl parcial })
    (paginas : Nat) : ∀ (pagina despl restantes procesados : Nat) (leido : Bytes) (n : Nodo σ),
      Ordenada cfg n.mem → LruAlDia cfg n.mem → despl < cfg.tamanioPagina → inv n →
      let r := recorrerPaginas srv cfg f escritura paginas pagina despl restantes procesados leido n
      inv r.nodo ∧ Ordenada cfg r.nodo.mem ∧ LruAlDia cfg r.nodo.mem := by
  have pasan : ∀ n n', Ordenada cfg n.mem → inv n → Pasos srv cfg n n' → inv n' := by
    intro n n' ord kept steps
    induction steps with
    | refl => exact kept
    | tail before step ih => exact pasa _ _ (ordenada_pasos before ord) ih step
  induction paginas with
  | zero =>
    intro pagina despl restantes procesados leido n ord dia _ kept
    exact ⟨kept, ord, dia⟩
  | succ paginas ih =>
    intro pagina despl restantes procesados leido n ord dia inside kept
    by_cases more : restantes = 0
    · rw [more, recorrer_final]
      exact ⟨kept, ord, dia⟩
    rw [recorrer_turno f escritura more]
    obtain ⟨steps, dia₁, there, _⟩ := obtenerPagina_spec srv ord dia f pagina
    generalize obtenerPagina srv cfg n f pagina = turn at steps dia₁ there ⊢
    obtain ⟨marco, n₁⟩ := turn
    dsimp only at steps dia₁ there
    have ord₁ := ordenada_pasos steps ord
    have kept₁ := pasan n n₁ ord kept steps
    cases marco with
    | none => exact ⟨kept₁, ord₁, dia₁⟩
    | some m =>
      obtain ⟨e, he, own, _⟩ := there m rfl
      cases escritura with
      | none =>
        have touch : Paso srv cfg n₁ { n₁ with mem := tocarPagina cfg n₁.mem m false } :=
          .orden n₁ _ (tocarPagina_lectura cfg n₁.mem m)
        exact ih (pagina + 1) 0 (restantes - enPagina cfg despl restantes)
          (procesados + enPagina cfg despl restantes)
          (leido ++ ((n₁.mem.arena m).drop despl).take (enPagina cfg despl restantes))
          _ (ordenada_paso touch ord₁) dia₁ cfg.pagina_pos (pasa _ _ ord₁ kept₁ touch)
      | some contenido =>
        dsimp only [Option.elim_some]
        have fits : despl + ((contenido.drop procesados).take
            (enPagina cfg despl restantes)).length ≤ cfg.tamanioPagina := by
          have le := List.length_take_le (enPagina cfg despl restantes) (contenido.drop procesados)
          have room := (enPagina_le restantes inside).2.1
          omega
        generalize (contenido.drop procesados).take (enPagina cfg despl restantes) = parcial at fits ⊢
        exact ih (pagina + 1) 0 (restantes - enPagina cfg despl restantes)
          (procesados + enPagina cfg despl restantes) (leido ++ [])
          { n₁ with mem := escribirPagina cfg n₁.mem m despl parcial }
          (ordenada_escribir ord₁ he despl parcial) (lruAlDia_escribir dia₁ he despl parcial)
          cfg.pagina_pos (escribe n₁ m e despl parcial ord₁ he own fits kept₁)

theorem recorrer_movimientos (srv : Servidor σ) (f : Archivo) (escritura : Option Bytes)
    (paginas pagina despl restantes procesados : Nat) (leido : Bytes) (n : Nodo σ)
    (ord : Ordenada cfg n.mem) (dia : LruAlDia cfg n.mem) (inside : despl < cfg.tamanioPagina) :
    let r := recorrerPaginas srv cfg f escritura paginas pagina despl restantes procesados leido n
    Movimientos srv cfg n r.nodo ∧ Ordenada cfg r.nodo.mem ∧ LruAlDia cfg r.nodo.mem :=
  recorrer_invariante f escritura (fun _ _ _ moves step => moves.tail (.paso step))
    (fun _ _ _ despl parcial _ he _ _ moves => moves.tail (.escribe he despl parcial))
    paginas pagina despl restantes procesados leido n ord dia inside .refl

theorem vista_cargada (ord : Ordenada cfg n.mem) (he : n.mem.marcos m = some e) :
    vista srv n (e.archivo, e.numeroPagina) = some (n.mem.arena m) := by
  simp [vista, view, paginas_of_marco ord he]

theorem turno_alDia (fiel : Fiel srv cfg Bueno) (firme : FirmeEn srv cfg Bueno propios n)
    (dia : LruAlDia cfg n.mem) (f : Archivo) (k : Nat)
    (whole : SinPerdida (obtenerPagina srv cfg n f k).2) :
    let r := obtenerPagina srv cfg n f k
    FirmeEn srv cfg Bueno propios r.2 ∧
      (∀ q, PaginaAlDia srv n q → PaginaAlDia srv r.2 q ∧ vista srv r.2 q = vista srv n q) ∧
      (r.1 = none → PaginaAlDia srv n (f, k) ∧ vista srv n (f, k) = none) := by
  obtain ⟨steps, _, _, missing⟩ := obtenerPagina_spec srv firme.ordenada dia f k
  obtain ⟨firme₁, upkeep⟩ := pasos_upkeep fiel steps whole firme
  refine ⟨firme₁, fun q => upkeeps_at upkeep, fun nothing => ?_⟩
  obtain ⟨notLoaded, noBlock⟩ := missing nothing
  have absent : paginas n.mem (f, k) = none := by simp [paginas, notLoaded]
  refine ⟨fun line hl => ?_, view_missing upkeep absent noBlock⟩
  rw [absent] at hl
  contradiction

theorem turno_firme (fiel : Fiel srv cfg Bueno) (firme : FirmeEn srv cfg Bueno propios n)
    (dia : LruAlDia cfg n.mem) (f : Archivo) (k : Nat)
    (whole : SinPerdida (obtenerPagina srv cfg n f k).2) :
    let r := obtenerPagina srv cfg n f k
    FirmeEn srv cfg Bueno propios r.2 ∧ LruAlDia cfg r.2.mem ∧ MismaVista srv propios n r.2 ∧
      (∀ m, r.1 = some m →
        ∃ e, r.2.mem.marcos m = some e ∧ e.archivo = f ∧ e.numeroPagina = k) ∧
      (propios f → r.1 = none → vista srv n (f, k) = none) := by
  obtain ⟨_, dia₁, there, _⟩ := obtenerPagina_spec srv firme.ordenada dia f k
  obtain ⟨firme₁, same, missing⟩ := turno_alDia fiel firme dia f k whole
  exact ⟨firme₁, dia₁, fun g own j => (same _ (firme.coherente g own j)).2, there,
    fun _ nothing => (missing nothing).2⟩

theorem take_append_take (l : Bytes) (p a q : Nat) (le : p + a ≤ q) :
    (l.drop p).take a ++ (l.drop (p + a)).take (q - (p + a)) = (l.drop p).take (q - p) := by
  rw [← List.drop_drop, ← List.take_add]
  congr 1
  omega

theorem posicion_en_pagina (cfg : ConfigMemoria) {despl : Nat} (inside : despl < cfg.tamanioPagina)
    (k : Nat) : (k * cfg.tamanioPagina + despl) / cfg.tamanioPagina = k := by
  rw [Nat.mul_comm, Nat.mul_add_div cfg.pagina_pos, Nat.div_eq_of_lt inside, Nat.add_zero]

theorem turno_escribe {n₁ : Nodo σ} (firme : FirmeEn srv cfg Bueno propios n₁)
    (he : n₁.mem.marcos m = some e) {despl : Nat} {parcial : Bytes}
    (fits : despl + parcial.length ≤ cfg.tamanioPagina)
    (same : ∀ q, PaginaAlDia srv n q → PaginaAlDia srv n₁ q ∧ vista srv n₁ q = vista srv n q) :
    let n₂ : Nodo σ := { n₁ with mem := escribirPagina cfg n₁.mem m despl parcial }
    let inicio := e.numeroPagina * cfg.tamanioPagina + despl
    FirmeEn srv cfg Bueno propios n₂ ∧ ∀ g i,
      (g = e.archivo ∧ inicio ≤ i ∧ i < inicio + parcial.length) ∨
        PaginaAlDia srv n (g, i / cfg.tamanioPagina) →
      PaginaAlDia srv n₂ (g, i / cfg.tamanioPagina) ∧
        byteEn srv cfg n₂ g i = sobrescribir (byteEn srv cfg n) e.archivo inicio parcial g i := by
  intro n₂ inicio
  obtain ⟨firme₂, written⟩ := firme_escribir firme he fits
  refine ⟨firme₂, fun g i hi => ⟨?_, ?_⟩⟩
  · rw [PaginaAlDia, paginas_escribir firme.ordenada he]
    refine coherentAt_put (fun other => ?_) _
    have old := hi.resolve_left fun inside => other
      (Prod.ext inside.1 ((dentro_de_pagina cfg fits i e.numeroPagina).mpr inside.2).1)
    exact (same _ old).1
  · rw [written]
    refine sobrescribir_congr_at (hi.imp_right fun old => ?_)
    simp only [byteEn, (same _ old).2]

/-- What a WRITE of `contenido` stored from `procesados` on is written over the flat array,
    wherever the pages were up to date; what it wrote itself is there in any case, and where it
    stopped short there is nothing. -/
structure Escribio (srv : Servidor σ) (cfg : ConfigMemoria) (Bueno : σ → Prop)
    (propios : Archivo → Prop) (n : Nodo σ) (f : Archivo) (contenido : Bytes)
    (inicio procesados : Nat) (r : Acceso σ) : Prop where
  firme : FirmeEn srv cfg Bueno propios r.nodo
  avanza : procesados ≤ r.procesados
  bytes : let escrito := (contenido.drop procesados).take (r.procesados - procesados)
    ∀ g i, (g = f ∧ inicio ≤ i ∧ i < inicio + escrito.length) ∨
        PaginaAlDia srv n (g, i / cfg.tamanioPagina) →
      byteEn srv cfg r.nodo g i = sobrescribir (byteEn srv cfg n) f inicio escrito g i
  falta : r.completo = false → r.procesados < contenido.length ∧
    byteEn srv cfg r.nodo f (inicio + (r.procesados - procesados)) = none

theorem escribio_fin (firme : FirmeEn srv cfg Bueno propios n) (f : Archivo)
    (contenido leido : Bytes) (inicio procesados : Nat) :
    Escribio srv cfg Bueno propios n f contenido inicio procesados
      ⟨n, leido, procesados, true⟩ := by
  refine ⟨firme, le_refl procesados, ?_, by simp⟩
  simp [sobrescribir_nil]

theorem escribio_falta {n₁ : Nodo σ} {contenido : Bytes} {pagina despl procesados : Nat}
    (firme : FirmeEn srv cfg Bueno propios n₁)
    (same : ∀ q, PaginaAlDia srv n q → PaginaAlDia srv n₁ q ∧ vista srv n₁ q = vista srv n q)
    (current : PaginaAlDia srv n (f, pagina)) (nowhere : vista srv n (f, pagina) = none)
    (inside : despl < cfg.tamanioPagina) (short : procesados < contenido.length)
    (leido : Bytes) : Escribio srv cfg Bueno propios n f contenido
      (pagina * cfg.tamanioPagina + despl) procesados ⟨n₁, leido, procesados, false⟩ := by
  refine ⟨firme, le_refl procesados, ?_, fun _ => ⟨short, ?_⟩⟩
  · rintro escrito g i (inside | current)
    · simp [escrito] at inside
      omega
    · simp [escrito, sobrescribir_nil, byteEn, (same _ current).2]
  · simp [byteEn, posicion_en_pagina cfg inside, (same _ current).2, nowhere]

theorem escribio_turno {n₂ : Nodo σ} {contenido parcial : Bytes} {inicio procesados : Nat}
    {r : Acceso σ}
    (written : ∀ g i, (g = f ∧ inicio ≤ i ∧ i < inicio + parcial.length) ∨
        PaginaAlDia srv n (g, i / cfg.tamanioPagina) →
      PaginaAlDia srv n₂ (g, i / cfg.tamanioPagina) ∧
        byteEn srv cfg n₂ g i = sobrescribir (byteEn srv cfg n) f inicio parcial g i)
    (piece : (contenido.drop procesados).take parcial.length = parcial)
    (rest : Escribio srv cfg Bueno propios n₂ f contenido (inicio + parcial.length)
      (procesados + parcial.length) r) :
    Escribio srv cfg Bueno propios n f contenido inicio procesados r := by
  obtain ⟨firme, le, bytes, falta⟩ := rest
  have joined := take_append_take contenido procesados parcial.length r.procesados le
  rw [piece] at joined
  refine ⟨firme, by omega, ?_, fun incomplete => ?_⟩
  · intro escrito g i hi
    rw [show escrito = _ from joined.symm] at hi ⊢
    rw [← sobrescribir_append]
    generalize (contenido.drop (procesados + parcial.length)).take
      (r.procesados - (procesados + parcial.length)) = resto at bytes hi ⊢
    by_cases ahead : g = f ∧ inicio + parcial.length ≤ i ∧
        i < inicio + parcial.length + resto.length
    · rw [bytes g i (.inl ahead)]
      exact sobrescribir_congr_at (.inl ahead)
    have here : (g = f ∧ inicio ≤ i ∧ i < inicio + parcial.length) ∨
        PaginaAlDia srv n (g, i / cfg.tamanioPagina) := by
      refine hi.imp_left fun inside => ⟨inside.1, inside.2.1, ?_⟩
      have high := inside.2.2
      rw [List.length_append] at high
      by_contra beyond
      exact ahead ⟨inside.1, by omega, by omega⟩
    obtain ⟨current, now⟩ := written g i here
    rw [bytes g i (.inr current)]
    exact sobrescribir_congr_at (.inr now)
  · obtain ⟨short, nothing⟩ := falta incomplete
    refine ⟨short, ?_⟩
    rw [← nothing]
    congr 1
    omega

theorem recorrer_escritura (fiel : Fiel srv cfg Bueno) (f : Archivo) (contenido : Bytes)
    (vueltas : Nat) : ∀ (pagina despl restantes procesados : Nat) (leido : Bytes) (n : Nodo σ),
      FirmeEn srv cfg Bueno propios n → LruAlDia cfg n.mem → despl < cfg.tamanioPagina →
      procesados + restantes = contenido.length →
      let r := recorrerPaginas srv cfg f (some contenido) vueltas pagina despl restantes
        procesados leido n
      SinPerdida r.nodo → Escribio srv cfg Bueno propios n f contenido
        (pagina * cfg.tamanioPagina + despl) procesados r := by
  induction vueltas with
  | zero =>
    intro pagina despl restantes procesados leido n firme _ _ _ r _
    exact escribio_fin firme f contenido leido _ procesados
  | succ vueltas ih =>
    intro pagina despl restantes procesados leido n firme dia inside total
    by_cases more : restantes = 0
    · rw [more, recorrer_final]
      exact fun _ => escribio_fin firme f contenido leido _ procesados
    rw [recorrer_turno f (some contenido) more]
    obtain ⟨steps, dia₁, there, _⟩ := obtenerPagina_spec srv firme.ordenada dia f pagina
    have spec := turno_alDia fiel firme dia f pagina
    generalize obtenerPagina srv cfg n f pagina = turn at steps dia₁ there spec ⊢
    obtain ⟨marco, n₁⟩ := turn
    cases marco with
    | none =>
      intro r whole
      obtain ⟨firme₁, same, missing⟩ := spec whole
      obtain ⟨current, nowhere⟩ := missing rfl
      exact escribio_falta firme₁ same current nowhere inside (by omega) leido
    | some m =>
      obtain ⟨e, he, rfl, rfl⟩ := there m rfl
      obtain ⟨le, fits, end_⟩ := enPagina_le restantes inside
      dsimp only [Option.elim_some] at steps dia₁ he spec ⊢
      generalize enPagina cfg despl restantes = en at le fits end_ ⊢
      have size : ((contenido.drop procesados).take en).length = en := by
        rw [List.length_take, List.length_drop]
        omega
      generalize hp : (contenido.drop procesados).take en = parcial at size ⊢
      have ord₁ := ordenada_pasos steps firme.ordenada
      have dia₂ := lruAlDia_escribir dia₁ he despl parcial
      intro whole
      have moves := (recorrer_movimientos srv e.archivo (some contenido) vueltas
        (e.numeroPagina + 1) 0 (restantes - en) (procesados + en) (leido ++ [])
        { n₁ with mem := escribirPagina cfg n₁.mem m despl parcial }
        (ordenada_escribir ord₁ he despl parcial) dia₂ cfg.pagina_pos).1
      have before := movimientos_rechazados moves
      obtain ⟨firme₁, same, _⟩ := spec (sinPerdida_antes (n := n₁) before whole)
      obtain ⟨firme₂, written⟩ := turno_escribe firme₁ he (size.symm ▸ fits) same
      refine escribio_turno written (size.symm ▸ hp) ?_
      by_cases last : restantes - en = 0
      · simp only [last, recorrer_final, size]
        exact escribio_fin firme₂ e.archivo contenido _ _ _
      · -- the rest of the access starts where this page ends
        have next : (e.numeroPagina + 1) * cfg.tamanioPagina + 0 =
            e.numeroPagina * cfg.tamanioPagina + despl + parcial.length := by
          rw [Nat.succ_mul]
          omega
        rw [← next, size]
        exact ih (e.numeroPagina + 1) 0 (restantes - en) (procesados + en) (leido ++ []) _ firme₂
          dia₂ cfg.pagina_pos (by omega) whole

theorem byteEn_pagina (ord : Ordenada cfg n.mem) (he : n.mem.marcos m = some e)
    {despl i largo : Nat} (fits : despl + largo ≤ cfg.tamanioPagina) (hi : i < largo) :
    byteEn srv cfg n e.archivo (e.numeroPagina * cfg.tamanioPagina + despl + i) =
      (n.mem.arena m)[despl + i]? := by
  obtain ⟨page, _⟩ := (dentro_de_pagina cfg fits
    (e.numeroPagina * cfg.tamanioPagina + despl + i) e.numeroPagina).mpr (by omega)
  have parts := Nat.div_add_mod' (e.numeroPagina * cfg.tamanioPagina + despl + i) cfg.tamanioPagina
  rw [page] at parts
  simp only [byteEn, page, vista_cargada ord he, Option.bind_some]
  congr 1
  omega

theorem trozo_pagina (srv : Servidor σ) (ord : Ordenada cfg n.mem)
    (he : n.mem.marcos m = some e) (page : (n.mem.arena m).length = cfg.tamanioPagina)
    {despl en : Nat}
    (fits : despl + en ≤ cfg.tamanioPagina) :
    (((n.mem.arena m).drop despl).take en).length = en ∧
      ∀ i < en, (((n.mem.arena m).drop despl).take en)[i]? =
        byteEn srv cfg n e.archivo (e.numeroPagina * cfg.tamanioPagina + despl + i) := by
  refine ⟨?_, fun i hi => ?_⟩
  · rw [List.length_take, List.length_drop]
    omega
  · rw [byteEn_pagina ord he fits hi, List.getElem?_take_of_lt hi, List.getElem?_drop]

-- what one page gives and what the next ones give, as one stretch
theorem visto_append {bytes : Nat → Option UInt8} {trozo visto : Bytes}
    (first : ∀ i < trozo.length, trozo[i]? = bytes i)
    (rest : ∀ i < visto.length, visto[i]? = bytes (trozo.length + i)) :
    ∀ i < (trozo ++ visto).length, (trozo ++ visto)[i]? = bytes i := by
  intro i hi
  rw [List.length_append] at hi
  by_cases here : i < trozo.length
  · rw [List.getElem?_append_left here, first i here]
  · rw [List.getElem?_append_right (by omega), rest (i - trozo.length) (by omega)]
    congr 1
    omega

theorem recorrer_lectura (fiel : Fiel srv cfg Bueno) (f : Archivo) (paginas : Nat) :
    ∀ (pagina despl restantes procesados : Nat) (leido : Bytes) (n : Nodo σ),
      FirmeEn srv cfg Bueno propios n → LruAlDia cfg n.mem → despl < cfg.tamanioPagina →
      let r := recorrerPaginas srv cfg f none paginas pagina despl restantes procesados leido n
      SinPerdida r.nodo →
      FirmeEn srv cfg Bueno propios r.nodo ∧ MismaVista srv propios n r.nodo ∧
        procesados ≤ r.procesados ∧ ∃ visto : Bytes, r.leido = leido ++ visto ∧
          visto.length = r.procesados - procesados ∧ (propios f → ∀ i < visto.length, visto[i]? =
            byteEn srv cfg n f (pagina * cfg.tamanioPagina + despl + i)) := by
  induction paginas with
  | zero =>
    intro pagina despl restantes procesados leido n firme _ _ r _
    exact ⟨firme, fun _ _ _ => rfl, le_refl procesados, [], by simp [r, recorrerPaginas]⟩
  | succ paginas ih =>
    intro pagina despl restantes procesados leido n firme dia inside
    by_cases more : restantes = 0
    · rw [more, recorrer_final]
      intro r _
      exact ⟨firme, fun _ _ _ => rfl, le_refl procesados, [], by simp [r]⟩
    rw [recorrer_turno f none more]
    obtain ⟨steps, dia₁, there, _⟩ := obtenerPagina_spec srv firme.ordenada dia f pagina
    have spec := turno_firme fiel firme dia f pagina
    generalize obtenerPagina srv cfg n f pagina = turn at steps dia₁ there spec ⊢
    obtain ⟨marco, n₁⟩ := turn
    cases marco with
    | none =>
      intro r whole
      obtain ⟨firme₁, _, same, _⟩ := spec whole
      exact ⟨firme₁, same, le_refl procesados, [], by simp [r]⟩
    | some m =>
      obtain ⟨e, he, rfl, rfl⟩ := there m rfl
      obtain ⟨le, fits, end_⟩ := enPagina_le restantes inside
      dsimp only [Option.elim_none] at steps dia₁ he spec ⊢
      generalize enPagina cfg despl restantes = en at le fits end_ ⊢
      have ord₁ := ordenada_pasos steps firme.ordenada
      have touch : Paso srv cfg n₁ { n₁ with mem := tocarPagina cfg n₁.mem m false } :=
        .orden n₁ _ (tocarPagina_lectura cfg n₁.mem m)
      intro whole
      have moves := (recorrer_movimientos srv e.archivo none paginas (e.numeroPagina + 1) 0
        (restantes - en) (procesados + en) (leido ++ ((n₁.mem.arena m).drop despl).take en)
        { n₁ with mem := tocarPagina cfg n₁.mem m false } (ordenada_paso touch ord₁) dia₁
        cfg.pagina_pos).1
      have before := movimientos_rechazados moves
      obtain ⟨firme₁, _, same, _⟩ := spec (sinPerdida_antes (n := n₁) before whole)
      obtain ⟨firme₂, same₂⟩ :=
        pasos_firme fiel (.single touch) (sinPerdida_antes before whole) firme₁
      obtain ⟨size, piece⟩ := trozo_pagina srv ord₁ he
        (firme₁.largas _ _ (paginas_of_marco ord₁ he)) fits
      generalize ((n₁.mem.arena m).drop despl).take en = trozo at size piece whole ⊢
      by_cases last : restantes - en = 0
      · simp only [last, recorrer_final]
        refine ⟨firme₂, same.trans same₂, Nat.le_add_right _ _, trozo, rfl, by omega, ?_⟩
        intro own i hi
        rw [piece i (size ▸ hi), byteEn_congr same own]
      · have next : (e.numeroPagina + 1) * cfg.tamanioPagina + 0 =
            e.numeroPagina * cfg.tamanioPagina + despl + en := by
          rw [Nat.succ_mul]
          omega
        obtain ⟨firme₃, same₃, le₃, visto, hv, sizeV, bytes⟩ := ih (e.numeroPagina + 1) 0
          (restantes - en) (procesados + en) (leido ++ trozo) _ firme₂ dia₁ cfg.pagina_pos whole
        refine ⟨firme₃, (same.trans same₂).trans same₃, by omega, trozo ++ visto, ?_, ?_, ?_⟩
        · rw [hv, List.append_assoc]
        · rw [List.length_append]
          omega
        · intro own
          refine visto_append (fun i hi => ?_) (fun i hi => ?_)
          · rw [piece i (size ▸ hi), byteEn_congr same own]
          · rw [bytes own i hi, byteEn_congr (same.trans same₂) own, next, size, Nat.add_assoc]

theorem turno_sigue {n₁ : Nodo σ} (fiel : Fiel srv cfg Bueno) (escritura : Option Bytes)
    (ord : Ordenada cfg n₁.mem) (dia : LruAlDia cfg n₁.mem) (he : n₁.mem.marcos m = some e)
    (own : propios e.archivo) {despl en : Nat} (fits : despl + en ≤ cfg.tamanioPagina)
    (procesados : Nat) :
    let n₂ : Nodo σ := { n₁ with
      mem := escritura.elim (tocarPagina cfg n₁.mem m false) fun contenido =>
        escribirPagina cfg n₁.mem m despl ((contenido.drop procesados).take en) }
    Ordenada cfg n₂.mem ∧ LruAlDia cfg n₂.mem ∧ n₂.rechazados = n₁.rechazados ∧
      (SinPerdida n₂ → FirmeEn srv cfg Bueno propios n₁ → FirmeEn srv cfg Bueno propios n₂ ∧
        ∀ k, (vista srv n₁ (e.archivo, k)).isSome = true →
          (vista srv n₂ (e.archivo, k)).isSome = true) := by
  cases escritura with
  | none =>
    have touch : Paso srv cfg n₁ { n₁ with mem := tocarPagina cfg n₁.mem m false } :=
      .orden n₁ _ (tocarPagina_lectura cfg n₁.mem m)
    refine ⟨ordenada_paso touch ord, dia, rfl, fun whole firme => ?_⟩
    obtain ⟨firme₂, same⟩ := pasos_firme fiel (.single touch) whole firme
    refine ⟨firme₂, fun k hk => ?_⟩
    dsimp only [Option.elim_none]
    rw [same e.archivo own]
    exact hk
  | some contenido =>
    dsimp only [Option.elim_some]
    have size := List.length_take_le en (contenido.drop procesados)
    generalize (contenido.drop procesados).take en = parcial at size ⊢
    refine ⟨ordenada_escribir ord he despl parcial, lruAlDia_escribir dia he despl parcial, rfl,
      fun _ firme => ⟨(firme_escribir firme he (by omega)).1, fun k hk => ?_⟩⟩
    rw [vista_escribir ord he]
    by_cases hq : (e.archivo, k) = (e.archivo, e.numeroPagina)
    · rw [hq, Function.update_self]
      rfl
    · rw [Function.update_of_ne hq]
      exact hk

theorem recorrer_completo (fiel : Fiel srv cfg Bueno) (f : Archivo) (escritura : Option Bytes)
    (paginas : Nat) : ∀ (pagina despl restantes procesados : Nat) (leido : Bytes) (n : Nodo σ),
      FirmeEn srv cfg Bueno propios n → LruAlDia cfg n.mem → propios f →
      despl < cfg.tamanioPagina → despl + restantes ≤ paginas * cfg.tamanioPagina →
      (∀ k, pagina ≤ k → k < pagina + paginas → (vista srv n (f, k)).isSome = true) →
      let r := recorrerPaginas srv cfg f escritura paginas pagina despl restantes procesados leido n
      SinPerdida r.nodo → r.completo = true ∧ r.procesados = procesados + restantes := by
  induction paginas with
  | zero =>
    intro pagina despl restantes procesados leido n _ _ _ _ room _ r _
    have nothing : restantes = 0 := by omega
    simp [r, recorrerPaginas, nothing]
  | succ paginas ih =>
    intro pagina despl restantes procesados leido n firme dia own inside room there
    by_cases more : restantes = 0
    · rw [more, recorrer_final]
      intro r _
      simp [r]
    rw [recorrer_turno f escritura more]
    obtain ⟨steps, dia₁, found, _⟩ := obtenerPagina_spec srv firme.ordenada dia f pagina
    have spec := turno_firme fiel firme dia f pagina
    generalize obtenerPagina srv cfg n f pagina = turn at steps dia₁ found spec ⊢
    obtain ⟨marco, n₁⟩ := turn
    cases marco with
    | none =>
      intro r whole
      obtain ⟨_, _, _, _, missing⟩ := spec whole
      have first := there pagina (le_refl _) (by omega)
      simp [missing own rfl] at first
    | some m =>
      obtain ⟨e, he, rfl, rfl⟩ := found m rfl
      obtain ⟨le, fits, end_⟩ := enPagina_le restantes inside
      dsimp only at steps dia₁ he spec ⊢
      generalize enPagina cfg despl restantes = en at le fits end_ ⊢
      have ord₁ := ordenada_pasos steps firme.ordenada
      have room' : 0 + (restantes - en) ≤ paginas * cfg.tamanioPagina := by
        rw [Nat.succ_mul] at room
        omega
      obtain ⟨ord₂, dia₂, sameR, ready⟩ :=
        turno_sigue fiel escritura ord₁ dia₁ he own fits procesados
      generalize ({ n₁ with
            mem := escritura.elim (tocarPagina cfg n₁.mem m false) fun contenido =>
              escribirPagina cfg n₁.mem m despl ((contenido.drop procesados).take en) } :
          Nodo σ) = n₂ at ord₂ dia₂ sameR ready ⊢
      generalize (leido ++ escritura.elim (((n₁.mem.arena m).drop despl).take en) fun _ => []) =
        leido₂
      intro whole
      have moves := (recorrer_movimientos srv e.archivo escritura paginas (e.numeroPagina + 1) 0
        (restantes - en) (procesados + en) leido₂ n₂ ord₂ dia₂ cfg.pagina_pos).1
      have whole₂ := sinPerdida_antes (movimientos_rechazados moves) whole
      have whole₁ : SinPerdida n₁ := by
        unfold SinPerdida
        rw [← sameR]
        exact whole₂
      obtain ⟨firme₁, _, same, _⟩ := spec whole₁
      obtain ⟨firme₂, still⟩ := ready whole₂ firme₁
      obtain ⟨complete, total⟩ := ih (e.numeroPagina + 1) 0 (restantes - en) (procesados + en)
        leido₂ n₂ firme₂ dia₂ own cfg.pagina_pos room'
        (fun k lo hi => still k (by rw [same _ own]; exact there k (by omega) (by omega))) whole
      exact ⟨complete, by omega⟩

theorem offset_parts (cfg : ConfigMemoria) (offset : Nat) :
    offset / cfg.tamanioPagina * cfg.tamanioPagina + offset % cfg.tamanioPagina = offset ∧
      offset % cfg.tamanioPagina < cfg.tamanioPagina :=
  ⟨Nat.div_add_mod' offset cfg.tamanioPagina, Nat.mod_lt _ cfg.pagina_pos⟩

theorem acceder_invariante {inv : Nodo σ → Prop} (f : Archivo) (escritura : Option Bytes)
    (pasa : ∀ n n', Ordenada cfg n.mem → inv n → Paso srv cfg n n' → inv n')
    (escribe : ∀ (n : Nodo σ) m e despl parcial, Ordenada cfg n.mem →
      n.mem.marcos m = some e → e.archivo = f → despl + parcial.length ≤ cfg.tamanioPagina →
      inv n → inv { n with mem := escribirPagina cfg n.mem m despl parcial })
    (ord : Ordenada cfg n.mem) (dia : LruAlDia cfg n.mem) (offset tam : Nat) (start : inv n) :
    let r := accederMemoria srv cfg n f offset tam escritura
    inv r.nodo ∧ Ordenada cfg r.nodo.mem ∧ LruAlDia cfg r.nodo.mem := by
  unfold accederMemoria
  by_cases nothing : tam = 0
  · rw [if_pos nothing]
    exact ⟨start, ord, dia⟩
  · rw [if_neg nothing]
    exact recorrer_invariante f escritura pasa escribe _ _ _ _ _ _ n ord dia
      (offset_parts cfg offset).2 start

theorem acceder_movimientos (srv : Servidor σ) (ord : Ordenada cfg n.mem)
    (dia : LruAlDia cfg n.mem) (f : Archivo) (offset tam : Nat) (escritura : Option Bytes) :
    let r := accederMemoria srv cfg n f offset tam escritura
    Movimientos srv cfg n r.nodo ∧ Ordenada cfg r.nodo.mem ∧ LruAlDia cfg r.nodo.mem :=
  acceder_invariante f escritura (fun _ _ _ moves step => moves.tail (.paso step))
    (fun _ _ _ despl parcial _ he _ _ moves => moves.tail (.escribe he despl parcial))
    ord dia offset tam .refl

theorem executeWrite_alDia (fiel : Fiel srv cfg Bueno) (firme : FirmeEn srv cfg Bueno propios n)
    (dia : LruAlDia cfg n.mem) (f : Archivo) (base : Nat) (contenido : Bytes)
    (whole : SinPerdida (executeWrite srv cfg n f base contenido).nodo) :
    let r := executeWrite srv cfg n f base contenido
    let escrito := (cadena contenido).take r.procesados
    FirmeEn srv cfg Bueno propios r.nodo ∧
      (∀ g i, (g = f ∧ base ≤ i ∧ i < base + escrito.length) ∨
          PaginaAlDia srv n (g, i / cfg.tamanioPagina) →
        byteEn srv cfg r.nodo g i = sobrescribir (byteEn srv cfg n) f base escrito g i) ∧
      (r.completo = false → cadena contenido ≠ [] → r.procesados < (cadena contenido).length ∧
        byteEn srv cfg r.nodo f (base + r.procesados) = none) := by
  simp only [executeWrite, accederMemoria] at whole ⊢
  by_cases nothing : (cadena contenido).length = 0
  · rw [if_pos nothing]
    refine ⟨firme, fun g i _ => by simp [sobrescribir_nil], fun _ some_ => ?_⟩
    exact (some_ (List.length_eq_zero_iff.mp nothing)).elim
  rw [if_neg nothing] at whole ⊢
  obtain ⟨here, inside⟩ := offset_parts cfg base
  obtain ⟨firme', _, bytes, stopped⟩ := recorrer_escritura fiel f (cadena contenido) _
    (base / cfg.tamanioPagina) _ _ 0 [] n firme dia inside (Nat.zero_add _) whole
  rw [here, List.drop_zero, Nat.sub_zero] at bytes
  rw [here, Nat.sub_zero] at stopped
  exact ⟨firme', bytes, fun failed _ => stopped failed⟩

theorem executeWrite_en (fiel : Fiel srv cfg Bueno) (firme : FirmeEn srv cfg Bueno propios n)
    (dia : LruAlDia cfg n.mem) (f : Archivo) (base : Nat) (contenido : Bytes)
    (whole : SinPerdida (executeWrite srv cfg n f base contenido).nodo) :
    let r := executeWrite srv cfg n f base contenido
    FirmeEn srv cfg Bueno propios r.nodo ∧ ∀ g, propios g → byteEn srv cfg r.nodo g =
      sobrescribir (byteEn srv cfg n) f base ((cadena contenido).take r.procesados) g := by
  obtain ⟨firme', bytes, _⟩ := executeWrite_alDia fiel firme dia f base contenido whole
  exact ⟨firme', fun g own => funext fun i => bytes g i (.inr (firme.coherente g own _))⟩

theorem executeWrite_spec (fiel : Fiel srv cfg Bueno) (firme : Firme srv cfg Bueno n)
    (dia : LruAlDia cfg n.mem) (f : Archivo) (base : Nat) (contenido : Bytes)
    (whole : SinPerdida (executeWrite srv cfg n f base contenido).nodo) :
    let r := executeWrite srv cfg n f base contenido
    Firme srv cfg Bueno r.nodo ∧ byteEn srv cfg r.nodo =
      sobrescribir (byteEn srv cfg n) f base ((cadena contenido).take r.procesados) := by
  obtain ⟨firme', bytes⟩ := executeWrite_en fiel (firme_iff.mp firme) dia f base contenido whole
  exact ⟨firme_iff.mpr firme', funext fun g => bytes g trivial⟩

theorem executeRead_en (fiel : Fiel srv cfg Bueno) (firme : FirmeEn srv cfg Bueno propios n)
    (dia : LruAlDia cfg n.mem) (f : Archivo) (base : Nat) (tamanio : Int)
    (whole : SinPerdida (executeRead srv cfg n f base tamanio).nodo) :
    let r := executeRead srv cfg n f base tamanio
    FirmeEn srv cfg Bueno propios r.nodo ∧ MismaVista srv propios n r.nodo ∧
      r.leido.length = r.procesados ∧
      (propios f → ∀ i < r.procesados, r.leido[i]? = byteEn srv cfg n f (base + i)) := by
  simp only [executeRead, accederMemoria] at whole ⊢
  by_cases nothing : tamanio.toNat = 0
  · rw [if_pos nothing]
    exact ⟨firme, fun _ _ _ => rfl, rfl, by simp⟩
  rw [if_neg nothing] at whole ⊢
  obtain ⟨here, inside⟩ := offset_parts cfg base
  obtain ⟨firme', same, _, visto, hv, size, bytes⟩ := recorrer_lectura fiel f _
    (base / cfg.tamanioPagina) _ _ 0 [] n firme dia inside whole
  rw [List.nil_append] at hv
  rw [Nat.sub_zero] at size
  rw [hv]
  refine ⟨firme', same, size, ?_⟩
  intro own i hi
  rw [bytes own i (by omega), here]

theorem executeRead_spec (fiel : Fiel srv cfg Bueno) (firme : Firme srv cfg Bueno n)
    (dia : LruAlDia cfg n.mem) (f : Archivo) (base : Nat) (tamanio : Int)
    (whole : SinPerdida (executeRead srv cfg n f base tamanio).nodo) :
    let r := executeRead srv cfg n f base tamanio
    Firme srv cfg Bueno r.nodo ∧ byteEn srv cfg r.nodo = byteEn srv cfg n ∧
      r.leido.length = r.procesados ∧
      ∀ i < r.procesados, r.leido[i]? = byteEn srv cfg n f (base + i) := by
  obtain ⟨firme', same, size, bytes⟩ :=
    executeRead_en fiel (firme_iff.mp firme) dia f base tamanio whole
  exact ⟨firme_iff.mpr firme', funext fun _ => byteEn_congr same trivial, size, bytes trivial⟩

theorem acceso_cabe (cfg : ConfigMemoria) (offset : Nat) {tam : Nat} (some_ : tam ≠ 0) :
    offset % cfg.tamanioPagina + tam ≤ ((offset + tam - 1) / cfg.tamanioPagina -
      offset / cfg.tamanioPagina + 1) * cfg.tamanioPagina := by
  have pos := cfg.pagina_pos
  obtain ⟨here, inside⟩ := offset_parts cfg offset
  obtain ⟨there_, inside_⟩ := offset_parts cfg (offset + tam - 1)
  have order : offset / cfg.tamanioPagina ≤ (offset + tam - 1) / cfg.tamanioPagina :=
    Nat.div_le_div_right (by omega)
  have span : ((offset + tam - 1) / cfg.tamanioPagina - offset / cfg.tamanioPagina + 1) *
      cfg.tamanioPagina + offset / cfg.tamanioPagina * cfg.tamanioPagina =
        (offset + tam - 1) / cfg.tamanioPagina * cfg.tamanioPagina + cfg.tamanioPagina := by
    rw [← Nat.add_mul, ← Nat.succ_mul]
    congr 1
    omega
  omega

theorem acceder_completo (fiel : Fiel srv cfg Bueno) (firme : FirmeEn srv cfg Bueno propios n)
    (dia : LruAlDia cfg n.mem) (own : propios f) (offset : Nat) {tam : Nat} (some_ : tam ≠ 0)
    (escritura : Option Bytes)
    (there : ∀ k, k * cfg.tamanioPagina < offset + tam → (vista srv n (f, k)).isSome = true)
    (whole : SinPerdida (accederMemoria srv cfg n f offset tam escritura).nodo) :
    let r := accederMemoria srv cfg n f offset tam escritura
    r.completo = true ∧ r.procesados = tam := by
  simp only [accederMemoria, if_neg some_] at whole ⊢
  have pos := cfg.pagina_pos
  have inside := (offset_parts cfg offset).2
  obtain ⟨there_, inside_⟩ := offset_parts cfg (offset + tam - 1)
  have order : offset / cfg.tamanioPagina ≤ (offset + tam - 1) / cfg.tamanioPagina :=
    Nat.div_le_div_right (by omega)
  have pages : ∀ k, offset / cfg.tamanioPagina ≤ k → k < offset / cfg.tamanioPagina +
      ((offset + tam - 1) / cfg.tamanioPagina - offset / cfg.tamanioPagina + 1) →
      (vista srv n (f, k)).isSome = true := by
    intro k _ hi
    have le : k * cfg.tamanioPagina ≤ (offset + tam - 1) / cfg.tamanioPagina * cfg.tamanioPagina :=
      Nat.mul_le_mul_right _ (by omega)
    exact there k (by omega)
  obtain ⟨complete, total⟩ := recorrer_completo fiel f escritura _ (offset / cfg.tamanioPagina) _
    tam 0 [] n firme dia own inside (acceso_cabe cfg offset some_) pages whole
  exact ⟨complete, by omega⟩

theorem recorrer_procesados (srv : Servidor σ) (f : Archivo) (escritura : Option Bytes)
    (paginas : Nat) : ∀ (pagina despl restantes procesados : Nat) (leido : Bytes) (n : Nodo σ),
      despl < cfg.tamanioPagina → despl + restantes ≤ paginas * cfg.tamanioPagina →
      let r := recorrerPaginas srv cfg f escritura paginas pagina despl restantes procesados leido n
      r.completo = true → r.procesados = procesados + restantes := by
  induction paginas with
  | zero =>
    intro pagina despl restantes procesados leido n _ room r _
    have nothing : restantes = 0 := by omega
    simp [r, recorrerPaginas, nothing]
  | succ paginas ih =>
    intro pagina despl restantes procesados leido n inside room
    by_cases more : restantes = 0
    · rw [more, recorrer_final]
      intro r _
      simp [r]
    rw [recorrer_turno f escritura more]
    obtain ⟨le, fits, end_⟩ := enPagina_le restantes inside
    generalize enPagina cfg despl restantes = en at le fits end_ ⊢
    generalize obtenerPagina srv cfg n f pagina = turn
    obtain ⟨marco, n₁⟩ := turn
    cases marco with
    | none =>
      intro r complete
      contradiction
    | some m =>
      have room' : 0 + (restantes - en) ≤ paginas * cfg.tamanioPagina := by
        rw [Nat.succ_mul] at room
        omega
      intro r complete
      have rest := ih (pagina + 1) 0 (restantes - en) (procesados + en) _ _ cfg.pagina_pos room'
        complete
      exact rest.trans (by omega)

theorem acceder_procesados (srv : Servidor σ) (f : Archivo) (offset tam : Nat)
    (escritura : Option Bytes)
    (complete : (accederMemoria srv cfg n f offset tam escritura).completo = true) :
    (accederMemoria srv cfg n f offset tam escritura).procesados = tam := by
  unfold accederMemoria at complete ⊢
  by_cases nothing : tam = 0
  · rw [if_pos nothing]
    exact nothing.symm
  · rw [if_neg nothing] at complete ⊢
    exact (recorrer_procesados srv f escritura _ _ _ _ _ _ _ (offset_parts cfg offset).2
      (acceso_cabe cfg offset nothing) complete).trans (Nat.zero_add tam)

theorem lruAlDia_flush (srv : Servidor σ) (ord : Ordenada cfg n.mem) (dia : LruAlDia cfg n.mem)
    (f : Archivo) : LruAlDia cfg (executeFlush srv cfg n f).mem := by
  intro lru
  obtain ⟨fields, frames, _⟩ := paginasModificadas_spec ord f
  obtain ⟨nodup, names⟩ := dia lru
  rw [executeFlush, flush_mem, fields.2.2]
  refine ⟨nodup, fun m => ?_⟩
  rw [names, frames, Option.isSome_map]

theorem executeFlush_en (fiel : Fiel srv cfg Bueno) (firme : FirmeEn srv cfg Bueno propios n)
    (f : Archivo) (whole : SinPerdida (executeFlush srv cfg n f)) :
    FirmeEn srv cfg Bueno propios (executeFlush srv cfg n f) ∧
      MismaVista srv propios n (executeFlush srv cfg n f) :=
  pasos_firme fiel (.single (.flush n f)) whole firme

theorem executeFlush_spec (fiel : Fiel srv cfg Bueno) (firme : Firme srv cfg Bueno n)
    (dia : LruAlDia cfg n.mem) (f : Archivo) (whole : SinPerdida (executeFlush srv cfg n f)) :
    Firme srv cfg Bueno (executeFlush srv cfg n f) ∧
      byteEn srv cfg (executeFlush srv cfg n f) = byteEn srv cfg n ∧
      LruAlDia cfg (executeFlush srv cfg n f).mem := by
  obtain ⟨firme', same⟩ := executeFlush_en fiel (firme_iff.mp firme) f whole
  exact ⟨firme_iff.mpr firme', funext fun _ => byteEn_congr same trivial,
    lruAlDia_flush srv firme.ordenada dia f⟩

end WorkerRecorridos
