import MasterOfFiles.Lib.Calls
import MasterOfFiles.Sistema.Remoto

/-!
The instructions of a Worker over the bytes of its connection with Storage, with the pages that
they load and those that they send to make room. While names, pages and numbers are of the size
that a packet can take, each of its packets is a call of an operation.
-/
namespace SistemaEnLinea
open StorageEstado StoragePedidos Solicitudes Paquetes Valores Dialogue
open WorkerEntradas WorkerRepresentacion WorkerLlamadas WorkerEnPaso
open WorkerMemoria (ConfigMemoria aInt cadena numPaginaFinal numPaginaInicial)
open SistemaVolcado SistemaRemoto

variable {Hash : Type} [DecidableEq Hash] {sb : Superbloque} {md5 : Bytes → Hash}
  {s : Storage Hash} {cfg : ConfigMemoria} {mc : Malloc} {mem mem' : MemoriaInterna}
  {f : ArchivoTag} {g : FileTag} {queryId : Int} {n k : Nat}

def mensajeDe (codOp : Entero) (valores : List Bytes) : Option Mensaje :=
  match codigoDe codOp with
  | none => none
  | some .storageSendBlockSize =>
    (enteroEn valores 1).map fun n => ⟨.storageSendBlockSize, [.entero n]⟩
  | some .storageSendOkReadBlock =>
    (listGet valores 1).map fun bloque => ⟨.storageSendOkReadBlock, [.bloque bloque]⟩
  | some codigo => some ⟨codigo, []⟩

/-- The two sockets of a Worker and the thread of Storage that attends it. -/
def enBytes (sb : Superbloque) (md5 : Bytes → Hash) :
    Codec (Storage Hash) Mensaje Mensaje UInt8 where
  write := enviar
  attend s socket :=
    match recibirPaquete socket with
    | (.valores codOp parametros, []) => turno sb md5 s codOp parametros
    | _ => none
  read socket :=
    match recibirPaquete socket with
    | (.valores codOp valores, resto) => (mensajeDe codOp valores).map fun m => (m, resto)
    | _ => none

def Llama (sb : Superbloque) (md5 : Bytes → Hash) (s : Storage Hash) (paquete respuesta : Mensaje)
    (s' : Storage Hash) : Prop :=
  ∃ queryId p, paquete = Solicitud.paquete queryId p ∧
    rutinaOperaciones sb.tamanioBloque (p.resultado sb md5 s).1 paquete = some respuesta ∧
    s' = (p.resultado sb md5 s).2

structure EsPedido (paquete : Mensaje) : Prop where
  tipo : (codigosDe paquete.codigo).isSome = true
  solicitud : ∃ queryId p, paquete = Solicitud.paquete queryId p ∧ CabeSolicitud queryId p

theorem mensajeDe_respuesta {r : Resultado} {paquete respuesta : Mensaje}
    (unit : sb.tamanioBloque + 12 < 2 ^ 31)
    (reply : rutinaOperaciones sb.tamanioBloque r paquete = some respuesta) :
    mensajeDe (BitVec.ofNat 32 (numero respuesta.codigo)) (respuesta.campos.map valor) =
      some respuesta := by
  obtain ⟨codigo, campos⟩ := paquete
  obtain ⟨exito, contenido⟩ := r
  have size : enteroEn [valor (.entero sb.tamanioBloque)] 1 = some (sb.tamanioBloque : Int) :=
    leerEntero_valor (cabe_nat (by omega))
  cases codigo with
  | storageGetBlockSize =>
    cases reply
    simp only [mensajeDe, codigoDe_numero, List.map_cons, List.map_nil, size, Option.map_some]
  | storageCreateFile | storageTruncate | storageTag | storageCommit | storageFlush
  | storageWriteBlock | storageDelete | storageReadBlock =>
    cases exito <;> cases reply <;> rfl
  | _ => contradiction

theorem carries_pedido (md5 : Bytes → Hash) (unit : sb.tamanioBloque + 12 < 2 ^ 31)
    (s : Storage Hash) (q : Mensaje) (request : EsPedido q) :
    (enBytes sb md5).Carries EsDelTipo (Llama sb md5) s q := by
  obtain ⟨kind, queryId, p, rfl, fits⟩ := request
  obtain ⟨respuesta, reply, room, served, _⟩ := atendida md5 (s := s) fits unit
  have alone := recibirPaquete_enSocket fits.largo []
  have back := recibirPaquete_enSocket room []
  rw [List.append_nil] at alone back
  have ofKind : EsDelTipo (p.paquete queryId) respuesta := by
    obtain ⟨other, same, ok⟩ : ∃ other, rutinaOperaciones sb.tamanioBloque
        (p.resultado sb md5 s).1 (p.paquete queryId) = some other ∧
          EsDelTipo (p.paquete queryId) other := rutinaOperaciones_delTipo kind
    cases same.symm.trans reply
    exact ok
  refine ⟨respuesta, (p.resultado sb md5 s).2, enSocket (p.paquete queryId), enSocket respuesta,
    ⟨queryId, p, rfl, reply, rfl⟩, ofKind, enviar_enSocket fits.largo, ?_, ?_⟩
  · simp only [enBytes, alone, served]
  · simp only [enBytes, back, mensajeDe_respuesta unit reply, Option.map_some]

structure Corto (n : Nat) (f : ArchivoTag) : Prop where
  nombres : ∃ g, Nombra g f
  largo : f.file.length + f.tag.length ≤ n

def Cortas (n : Nat) (mem : MemoriaInterna) : Prop :=
  ∀ p e, mem.heap p = some e → Corto n e.archivo ∧ e.numeroPagina < 2 ^ 31

def Holgura (cfg : ConfigMemoria) (n : Nat) : Prop :=
  2 * n + 64 + cfg.cantidadMarcos * (cfg.tamanioPagina + 12) < 2 ^ 31

theorem total_append (a b : List Bytes) : total (a ++ b) = total a + total b := by
  simp [total]

theorem length_texto (t : String) : (valor (.texto t)).length = t.length + 1 := by
  rw [valor, List.length_append, bytesDeTexto, List.length_map, String.length_toList]
  rfl

theorem total_archivo (queryId : Int) (g : FileTag) :
    total ((camposDeArchivo queryId g).map valor) =
      18 + g.file.texto.length + g.tag.texto.length := by
  have id_ : (valor (.entero queryId)).length = 4 := length_bytesDe _
  simp only [total, camposDeArchivo, List.map_cons, List.map_nil, length_texto, id_,
    List.sum_cons, List.sum_nil]
  omega

theorem total_paginas {paginas : List (Int × Bytes)} {largo : Nat}
    (whole : ∀ p ∈ paginas, p.2.length = largo) :
    total ((paginas.flatMap camposDePagina).map valor) = paginas.length * (largo + 12) := by
  induction paginas with
  | nil => simp [total]
  | cons p paginas ih =>
    have first := whole p List.mem_cons_self
    have rest := ih fun q hq => whole q (List.mem_cons_of_mem p hq)
    have two : total ((camposDePagina p).map valor) = largo + 12 := by
      simp only [total, camposDePagina, List.map_cons, List.map_nil, valor, length_bytesDe, first,
        List.sum_cons, List.sum_nil]
      omega
    rw [List.flatMap_cons, List.map_append, total_append, two, rest, List.length_cons,
      Nat.succ_mul]
    omega

theorem length_paginasSucias (lig : Ligada cfg mem) (f : ArchivoTag) :
    (paginasSucias mem f).length ≤ cfg.cantidadMarcos := by
  let marco (p : Puntero) : Nat := (mem.heap p).elim 0 EntradaPagina.marco
  have frames : ((tablaDe mem f).map marco).Nodup := by
    refine (tablaDe_nodup lig f).map_on fun p hp q hq same => ?_
    obtain ⟨e, he, _⟩ := (mem_tablaDe lig).mp hp
    obtain ⟨e', he', _⟩ := (mem_tablaDe lig).mp hq
    simp only [marco, he, he', Option.elim_some] at same
    exact Option.some.inj ((lig.entrada p e he).symm.trans (same ▸ lig.entrada q e' he'))
  have inside : (tablaDe mem f).map marco ⊆ List.range cfg.cantidadMarcos := by
    intro m hm
    obtain ⟨p, hp, rfl⟩ := List.mem_map.mp hm
    obtain ⟨e, he, _⟩ := (mem_tablaDe lig).mp hp
    simp only [marco, he, Option.elim_some]
    exact List.mem_range.mpr (lig.ocupado _ p (lig.entrada p e he)).1
  have few := (frames.subperm inside).length_le
  rw [List.length_map, List.length_range] at few
  exact (List.length_filterMap_le _ _).trans few

theorem paqueteFlush_solicitud (lig : Ligada cfg mem) (names : Nombra g f) (queryId : Int) :
    paqueteFlush cfg mem queryId f =
      (Solicitud.flush g (paginasSucias mem f)).paquete queryId := by
  obtain ⟨_, _, _, campos, cantidad⟩ := armarFlush_spec lig queryId f
  simp only [paqueteFlush, campos, cantidad, Solicitud.paquete, camposDeArchivo, names.file,
    names.tag]

theorem entero_camposDeArchivo {m : Int} (h : .entero m ∈ camposDeArchivo queryId g) :
    m = queryId := by
  simpa [camposDeArchivo] using h

section
variable (room : Holgura cfg n) (id_ : Cabe (.entero queryId))
include room id_

theorem esPedido_archivo {p : Solicitud} {resto : List Campo} (short : Corto n f)
    (names : Nombra g f) (kind : (codigosDe (p.paquete queryId).codigo).isSome = true)
    (shape : (p.paquete queryId).campos = camposDeArchivo queryId g ++ resto)
    (few : resto = [] ∨ ∃ m, Cabe (.entero m) ∧ resto = [.entero m]) :
    EsPedido (p.paquete queryId) := by
  have largo := short.largo
  rw [← names.file, ← names.tag] at largo
  have size : total (resto.map valor) ≤ 8 := by
    rcases few with rfl | ⟨m, _, rfl⟩
    · exact Nat.zero_le 8
    · simp [total, valor, length_bytesDe]
  refine ⟨kind, queryId, p, rfl, fun m hm => ?_, ?_⟩
  · rw [shape] at hm
    rcases List.mem_append.mp hm with hm | hm
    · exact entero_camposDeArchivo hm ▸ id_
    · rcases few with rfl | ⟨k, low, rfl⟩
      · contradiction
      · cases List.mem_singleton.mp hm
        exact low
  · unfold Holgura at room
    rw [CabeMensaje, shape, List.map_append, total_append, total_archivo]
    omega

theorem esPedido_tag {f' : ArchivoTag} {g' : FileTag} (short : Corto n f) (short' : Corto n f')
    (names : Nombra g f) (names' : Nombra g' f') :
    EsPedido ((Solicitud.tag g g').paquete queryId) := by
  have largo := short.largo
  have largo' := short'.largo
  rw [← names.file, ← names.tag] at largo
  rw [← names'.file, ← names'.tag] at largo'
  refine ⟨rfl, queryId, .tag g g', rfl, fun m hm => ?_, ?_⟩
  · rcases List.mem_append.mp hm with hm | hm
    · exact entero_camposDeArchivo hm ▸ id_
    · simp at hm
  · have destino : total ([.texto g'.file.texto, .texto g'.tag.texto].map valor) =
        10 + g'.file.texto.length + g'.tag.texto.length := by
      simp only [total, List.map_cons, List.map_nil, length_texto, List.sum_cons, List.sum_nil]
      omega
    unfold Holgura at room
    rw [CabeMensaje, Solicitud.paquete, List.map_append, total_append, total_archivo, destino]
    omega

theorem esPedido_flush (lig : Ligada cfg mem)
    (arena : ∀ m, (mem.arena m).length = cfg.tamanioPagina) (pages : Cortas n mem)
    (short : Corto n f) : EsPedido (paqueteFlush cfg mem queryId f) := by
  obtain ⟨⟨g, names⟩, largo⟩ := short
  rw [← names.file, ← names.tag] at largo
  have few := length_paginasSucias lig f
  have bytes := Nat.mul_le_mul_right (cfg.tamanioPagina + 12) few
  have whole : ∀ p ∈ paginasSucias mem f, p.2.length = cfg.tamanioPagina := by
    intro p hp
    obtain ⟨_, e, _, _, _, rfl⟩ := (mem_paginasSucias lig).mp hp
    exact arena e.marco
  have frames : cfg.cantidadMarcos ≤ cfg.cantidadMarcos * (cfg.tamanioPagina + 12) :=
    Nat.le_mul_of_pos_right _ (by omega)
  unfold Holgura at room
  rw [paqueteFlush_solicitud lig names]
  refine ⟨rfl, queryId, .flush g (paginasSucias mem f), rfl, fun m hm => ?_, ?_⟩
  · simp only [Solicitud.paquete, List.mem_append, List.mem_flatMap, List.mem_singleton] at hm
    rcases hm with (hm | ⟨p, hp, hm⟩) | hm
    · exact entero_camposDeArchivo hm ▸ id_
    · obtain ⟨q, e, he, _, _, rfl⟩ := (mem_paginasSucias lig).mp hp
      have number : m = (e.numeroPagina : Int) := by simpa [camposDePagina] using hm
      exact number ▸ cabe_nat (pages q e he).2
    · cases hm
      exact cabe_nat (by omega)
  · have count : total ([.entero (paginasSucias mem f).length].map valor) = 8 := by
      simp [total, valor, length_bytesDe]
    rw [CabeMensaje, Solicitud.paquete, List.map_append, List.map_append, total_append,
      total_append, total_archivo, total_paginas whole, count]
    omega

omit room id_ in
theorem cortas_viejas (pages : Cortas n mem) (old : ∀ q e', mem'.heap q = some e' →
    ∃ e, mem.heap q = some e ∧ MismaPagina e e') : Cortas n mem' := by
  intro q e' he'
  obtain ⟨e, he, same⟩ := old q e' he'
  obtain ⟨short, number⟩ := pages q e he
  exact ⟨same.archivo ▸ short, same.numero ▸ number⟩

omit room id_ in
theorem cortas_registrar {m : Nat} (lig : Ligada cfg mem) (free : (mem.marcos m).libre = true)
    (pages : Cortas n mem) (short : Corto n f) (number : k < 2 ^ 31) (bloque : Bytes) :
    Cortas n (registrarPagina cfg mc mem m f k bloque) := by
  intro q e he
  rcases heap_registrar lig free he with ⟨_, rfl⟩ | ⟨old, _⟩
  · exact ⟨short, number⟩
  · exact pages q e old

theorem sends_desalojar (lig : Ligada cfg mem)
    (arena : ∀ m, (mem.arena m).length = cfg.tamanioPagina) (pages : Cortas n mem)
    {victima : Puntero} {e : EntradaPagina} (he : mem.heap victima = some e) :
    (desalojar cfg mem queryId victima e).Sends EsPedido := by
  unfold desalojar
  split
  · exact ⟨esPedido_flush room id_ lig arena pages (pages victima e he).1, fun _ => trivial⟩
  · trivial

theorem sends_aplicarLru (rep : Representacion cfg mem) (pages : Cortas n mem) :
    (aplicarLru cfg mem queryId).Sends EsPedido := by
  unfold aplicarLru
  split
  · trivial
  rename_i victima resto list
  split
  · trivial
  rename_i e he
  have lig : Ligada cfg { mem with lruList := resto } := ligada_congr rep.ligada rfl rfl rfl
  have gone := Talk.Keeps.of_sends (sends_desalojar room id_ lig rep.paginas pages he)
  exact Talk.sends_bind gone.1 gone.2 fun _ _ => trivial

theorem sends_aplicarClockM (rep : Representacion cfg mem) (pages : Cortas n mem) :
    (aplicarClockM cfg mem queryId).Sends EsPedido := by
  unfold aplicarClockM
  split
  · trivial
  split
  · trivial
  rename_i victima referencia chosen
  dsimp only
  split
  · trivial
  split
  · trivial
  rename_i e he
  have lig : Ligada cfg { mem with
      bitsReferencia := referencia, puntero := (victima + 1) % cfg.cantidadMarcos } :=
    ligada_congr rep.ligada rfl rfl rfl
  have gone := Talk.Keeps.of_sends (sends_desalojar room id_ lig rep.paginas pages he)
  exact Talk.sends_bind gone.1 gone.2 fun _ _ => trivial

theorem sends_marcoParaCargar (rep : Representacion cfg mem) (pages : Cortas n mem) :
    (marcoParaCargar cfg mem queryId).Sends EsPedido := by
  unfold marcoParaCargar
  split
  · trivial
  split
  · exact sends_aplicarLru room id_ rep pages
  · exact sends_aplicarClockM room id_ rep pages

theorem sends_pedirBloqueStorage (short : Corto n f) (number : k < 2 ^ 31) :
    (pedirBloqueStorage queryId f k).Sends EsPedido := by
  obtain ⟨g, names⟩ := short.nombres
  have packet : EsPedido ((Solicitud.readBlock g k).paquete queryId) :=
    esPedido_archivo room id_ short names rfl rfl (.inr ⟨k, cabe_nat number, rfl⟩)
  simp only [Solicitud.paquete, camposDeArchivo, names.file, names.tag] at packet
  exact ⟨packet, fun _ => trivial⟩

theorem keeps_cargarPagina (rep : Representacion cfg mem) (pages : Cortas n mem)
    (short : Corto n f) (number : k < 2 ^ 31) :
    (cargarPagina cfg mc mem queryId f k).Keeps EsPedido fun r => Cortas n r.2 := by
  refine Talk.keeps_bind ⟨sends_marcoParaCargar room id_ rep pages,
    marcoParaCargar_spec rep queryId⟩ fun r listo => ?_
  obtain ⟨marco, mem'⟩ := r
  obtain ⟨m, rfl, listo⟩ := listo
  have kept : Cortas n mem' := cortas_viejas pages listo.viejas
  refine Talk.keeps_bind (.of_sends (sends_pedirBloqueStorage room id_ short number))
    fun bloque _ => ?_
  cases bloque with
  | none => exact ⟨trivial, kept⟩
  | some bloque =>
    exact ⟨trivial, cortas_registrar listo.rep.ligada listo.libre kept short number bloque⟩

omit room id_ in
theorem cortas_buscarPagina (cfg : ConfigMemoria) (pages : Cortas n mem) (f : ArchivoTag)
    (k : Nat) : Cortas n (buscarPagina cfg mem f k).2 := by
  unfold Cortas
  rw [(buscarPagina_spec cfg mem f k).2]
  exact pages

theorem keeps_obtenerPagina (rep : Representacion cfg mem) (pages : Cortas n mem)
    (short : Corto n f) (number : k < 2 ^ 31) :
    (obtenerPagina cfg mc mem queryId f k).Keeps EsPedido fun r => Cortas n r.2 := by
  have hit := cortas_buscarPagina cfg pages f k
  unfold obtenerPagina
  split
  · rename_i p mem' found
    rw [found] at hit
    exact ⟨trivial, hit⟩
  refine Talk.keeps_bind (keeps_cargarPagina room id_ rep pages short number) fun r loaded => ?_
  obtain ⟨_ | m, mem'⟩ := r
  · exact ⟨trivial, loaded⟩
  · exact ⟨trivial, cortas_buscarPagina cfg loaded f k⟩

omit room id_ in
theorem cortas_tocarPagina (cfg : ConfigMemoria) {p : Puntero} {e : EntradaPagina}
    (pages : Cortas n mem) (he : mem.heap p = some e) (esEscritura : Bool) :
    Cortas n (tocarPagina cfg mem p e esEscritura) :=
  cortas_viejas pages (soloMarcas_tocarPagina cfg he esEscritura).antes

theorem keeps_recorrerPaginas (short : Corto n f) (escritura : Option Bytes) (paginas : Nat) :
    ∀ (actual despl restantes procesados : Nat) (leido : Bytes) (mem : MemoriaInterna),
      actual + paginas ≤ 2 ^ 31 → despl ≤ cfg.tamanioPagina → Representacion cfg mem →
      Cortas n mem → (recorrerPaginas cfg mc queryId f escritura paginas actual despl restantes
        procesados leido mem).Keeps EsPedido fun a => Cortas n a.mem := by
  induction paginas with
  | zero => exact fun _ _ _ _ _ _ _ _ _ pages => ⟨trivial, pages⟩
  | succ paginas ih =>
    intro actual despl restantes procesados leido mem last inside rep pages
    have number : actual < 2 ^ 31 := by omega
    rw [recorrerPaginas_natural]
    split
    · exact ⟨trivial, pages⟩
    refine Talk.keeps_bind ((keeps_obtenerPagina room id_ rep pages short number).and
      (obtenerPagina_spec rep queryId f actual)) fun r found => ?_
    obtain ⟨entrada, mem'⟩ := r
    obtain ⟨pages', rep', _⟩ := found
    dsimp only at pages' rep' ⊢
    split
    · exact ⟨trivial, pages'⟩
    rename_i p e there
    have he : mem'.heap p = some e := by
      simp only [Option.bind_eq_some_iff, Option.map_eq_some_iff, Prod.mk.injEq] at there
      obtain ⟨q, _, e', he', rfl, rfl⟩ := there
      exact he'
    have touched := representacion_tocarPagina rep' he escritura.isSome
    have kept := cortas_tocarPagina cfg pages' he escritura.isSome
    cases escritura with
    | none => exact ih _ _ _ _ _ _ (by omega) (Nat.zero_le _) touched kept
    | some contenido =>
      refine ih _ _ _ _ _ _ (by omega) (Nat.zero_le _)
        (representacion_copiarEnMarco touched _ ?_) kept
      rw [List.length_take]
      split <;> omega

omit room id_ in
theorem ultimaPagina_entera (cfg : ConfigMemoria) {offset tam : Nat}
    (last : (offset : Int) + tam ≤ 2 ^ 31) :
    offset / cfg.tamanioPagina + vueltasDe cfg offset tam ≤ 2 ^ 31 := by
  have final : numPaginaFinal cfg offset tam < 2147483648 := by
    unfold numPaginaFinal aInt
    split <;> omega
  have first : numPaginaInicial cfg offset = (offset / cfg.tamanioPagina : Nat) :=
    Int.tdiv_eq_ediv_of_nonneg (Int.natCast_nonneg offset)
  have below := Nat.div_le_self offset cfg.tamanioPagina
  rw [vueltasDe, first]
  omega

theorem keeps_accederMemoria (short : Corto n f) (rep : Representacion cfg mem)
    (pages : Cortas n mem) {offset : Int} {tam : Nat} (natural : 0 ≤ offset)
    (last : offset + tam ≤ 2 ^ 31) (escritura : Option Bytes) :
    (accederMemoria cfg mc mem queryId f offset tam escritura).Keeps EsPedido
      fun a => Representacion cfg a.mem ∧ Cortas n a.mem := by
  have rest : (accederMemoria cfg mc mem queryId f offset tam escritura).Ensures fun a =>
      Representacion cfg a.mem ∧ a.fuera = false :=
    accederMemoria_spec rep queryId f natural tam escritura
  suffices keeps : (accederMemoria cfg mc mem queryId f offset tam escritura).Keeps EsPedido
      fun a => Cortas n a.mem by
    refine ⟨keeps.1, Talk.ensures_iff.mpr fun a ends => ?_⟩
    exact ⟨(Talk.ensures_iff.mp rest a ends).1, Talk.ensures_iff.mp keeps.2 a ends⟩
  obtain ⟨offset, rfl⟩ := Int.eq_ofNat_of_zero_le natural
  rw [accederMemoria_natural]
  split
  · exact ⟨trivial, pages⟩
  · have inside := Nat.mod_lt offset cfg.pagina_pos
    exact keeps_recorrerPaginas room id_ short escritura _ _ _ _ _ _ mem
      (ultimaPagina_entera cfg last) inside.le rep pages

omit room id_ in
theorem keeps_pedir {q : Mensaje} (request : EsPedido q) :
    (pedir q).Keeps EsPedido fun _ => True :=
  .of_sends ⟨request, fun _ => trivial⟩

def InstruccionCabe (n : Nat) : Instruccion → Prop
  | .create f | .commit f | .flush f | .delete f => Corto n f
  | .truncate f tamanio => Corto n f ∧ 0 ≤ tamanio ∧ Cabe (.entero tamanio)
  | .write f direccionBase contenido =>
    Corto n f ∧ 0 ≤ direccionBase ∧ direccionBase + contenido.length ≤ 2 ^ 31
  | .read f direccionBase tamanio =>
    Corto n f ∧ 0 ≤ direccionBase ∧ direccionBase + tamanio.toNat ≤ 2 ^ 31
  | .tag origen destino => Corto n origen ∧ Corto n destino

theorem keeps_executeFlush (rep : Representacion cfg mem) (pages : Cortas n mem)
    (short : Corto n f) : (executeFlush cfg mem queryId f).Keeps EsPedido
      fun r => Representacion cfg r.1 ∧ Cortas n r.1 := by
  have kept := cortas_viejas pages (soloMarcas_armarFlush rep.ligada queryId f).antes
  exact ⟨⟨esPedido_flush room id_ rep.ligada rep.paginas pages short, fun _ => trivial⟩,
    fun _ => ⟨representacion_armarFlush rep queryId f, kept⟩⟩

theorem keeps_execute (rep : Representacion cfg mem) (pages : Cortas n mem) {i : Instruccion}
    (fits : InstruccionCabe n i) : (execute cfg mc mem queryId i).Keeps EsPedido
      fun r => Representacion cfg r.mem ∧ Cortas n r.mem := by
  have alone (f : ArchivoTag) (short : Corto n f) : ∃ g, Nombra g f ∧
      EsPedido ((Solicitud.create g).paquete queryId) ∧
      EsPedido ((Solicitud.commit g).paquete queryId) ∧
      EsPedido ((Solicitud.delete g).paquete queryId) := by
    obtain ⟨g, names⟩ := short.nombres
    exact ⟨g, names, esPedido_archivo room id_ short names rfl (List.append_nil _).symm (.inl rfl),
      esPedido_archivo room id_ short names rfl (List.append_nil _).symm (.inl rfl),
      esPedido_archivo room id_ short names rfl (List.append_nil _).symm (.inl rfl)⟩
  cases i with
  | create f =>
    obtain ⟨g, names, packet, _⟩ := alone f fits
    simp only [Solicitud.paquete, camposDeArchivo, names.file, names.tag] at packet
    exact Talk.keeps_bind (keeps_pedir packet) fun _ _ => ⟨trivial, rep, pages⟩
  | delete f =>
    obtain ⟨g, names, _, _, packet⟩ := alone f fits
    simp only [Solicitud.paquete, camposDeArchivo, names.file, names.tag] at packet
    exact Talk.keeps_bind (keeps_pedir packet) fun _ _ => ⟨trivial, rep, pages⟩
  | truncate f tamanio =>
    obtain ⟨short, positive, low⟩ := fits
    obtain ⟨g, names⟩ := short.nombres
    have same := Int.toNat_of_nonneg positive
    have packet : EsPedido ((Solicitud.truncate g tamanio.toNat).paquete queryId) :=
      esPedido_archivo room id_ short names rfl rfl (.inr ⟨_, same.symm ▸ low, rfl⟩)
    simp only [Solicitud.paquete, camposDeArchivo, names.file, names.tag, same] at packet
    exact Talk.keeps_bind (keeps_pedir packet) fun _ _ => ⟨trivial, rep, pages⟩
  | tag origen destino =>
    obtain ⟨short, short'⟩ := fits
    obtain ⟨g, names⟩ := short.nombres
    obtain ⟨g', names'⟩ := short'.nombres
    have packet := esPedido_tag room id_ short short' names names'
    simp only [Solicitud.paquete, camposDeArchivo, names.file, names.tag, names'.file,
      names'.tag] at packet
    exact Talk.keeps_bind (keeps_pedir packet) fun _ _ => ⟨trivial, rep, pages⟩
  | write f base contenido =>
    obtain ⟨short, natural, last⟩ := fits
    have cut : (cadena contenido).length ≤ contenido.length :=
      (List.takeWhile_prefix _).length_le
    exact Talk.keeps_bind (keeps_accederMemoria room id_ short rep pages natural (by omega) _)
      fun _ kept => ⟨trivial, kept⟩
  | read f base tamanio =>
    exact Talk.keeps_bind (keeps_accederMemoria room id_ fits.1 rep pages fits.2.1 fits.2.2 none)
      fun _ kept => ⟨trivial, kept⟩
  | flush f =>
    exact Talk.keeps_bind (keeps_executeFlush room id_ rep pages fits) fun _ kept => ⟨trivial, kept⟩
  | commit f =>
    obtain ⟨g, names, _, packet, _⟩ := alone f fits
    simp only [Solicitud.paquete, camposDeArchivo, names.file, names.tag] at packet
    exact Talk.keeps_bind (keeps_executeFlush room id_ rep pages fits) fun _ kept =>
      Talk.keeps_bind (keeps_pedir packet) fun _ _ => ⟨trivial, kept⟩

end

/-- Instructions of any queries, one after the other, and which of them set error_storage. -/
def ejecutarTodas (cfg : ConfigMemoria) (mc : Malloc) (mem : MemoriaInterna) :
    List (Int × Instruccion) → ConStorage (MemoriaInterna × List Bool)
  | [] => .done (mem, [])
  | (queryId, i) :: resto => do
    let estado ← execute cfg mc mem queryId i
    let (mem, errores) ← ejecutarTodas cfg mc estado.mem resto
    .done (mem, estado.error :: errores)

theorem enPaso_ejecutarTodas (instrucciones : List (Int × Instruccion)) :
    ∀ mem, EnPaso sb.tamanioBloque (ejecutarTodas cfg mc mem instrucciones) := by
  induction instrucciones with
  | nil => exact fun _ => trivial
  | cons q resto ih =>
    exact fun mem => Talk.inStep_bind (enPaso_execute q.2) fun r =>
      Talk.inStep_bind (ih r.1) fun _ => trivial

theorem keeps_ejecutarTodas (room : Holgura cfg n) (instrucciones : List (Int × Instruccion)) :
    ∀ mem, (∀ q ∈ instrucciones, Cabe (.entero q.1) ∧ InstruccionCabe n q.2) →
      Representacion cfg mem → Cortas n mem →
        (ejecutarTodas cfg mc mem instrucciones).Keeps EsPedido
          fun r => Representacion cfg r.1 := by
  induction instrucciones with
  | nil => exact fun _ _ rep _ => ⟨trivial, rep⟩
  | cons q resto ih =>
    intro mem fit rep pages
    obtain ⟨id_, fits⟩ := fit q List.mem_cons_self
    refine Talk.keeps_bind (keeps_execute room id_ rep pages fits) fun r kept => ?_
    exact Talk.keeps_bind (ih r.1 (fun q hq => fit q (List.mem_cons_of_mem _ hq)) kept.1 kept.2)
      fun _ rep => ⟨trivial, rep⟩

/-- A new Worker that executes any instructions of these sizes over the bytes of its connection
    is never stuck, leaves no byte unread, and ends with the memory, the errors and the Storage
    that it has when each of its packets is a call of the operation that it asks for. -/
theorem instrucciones_en_linea (unit : sb.tamanioBloque + 12 < 2 ^ 31) (room : Holgura cfg n)
    (md5 : Bytes → Hash) (s : Storage Hash) (mc : Malloc)
    (instrucciones : List (Int × Instruccion))
    (fit : ∀ q ∈ instrucciones, Cabe (.entero q.1) ∧ InstruccionCabe n q.2) :
    let worker := ejecutarTodas cfg mc (crearMemoria cfg) instrucciones
    ∃ r s', worker.overWire (enBytes sb md5) s [] = some (r, s', []) ∧
      worker.Calls (Llama sb md5) s r s' ∧ Representacion cfg r.1 := by
  intro worker
  have empty : Cortas n (crearMemoria cfg) := fun p e he => by contradiction
  have keeps : worker.Keeps EsPedido fun r => Representacion cfg r.1 :=
    keeps_ejecutarTodas room instrucciones _ fit (representacion_crearMemoria cfg) empty
  have inStep : EnPaso sb.tamanioBloque worker := enPaso_ejecutarTodas instrucciones _
  obtain ⟨r, s', run, calls⟩ := overWire_calls (carries_pedido md5 unit) inStep keeps.1 s
  exact ⟨r, s', run, calls, calls.ensured keeps.2⟩

theorem instrucciones_en_linea_a1 : ∃ mc r s', (ejecutarTodas unaPagina mc
    (crearMemoria unaPagina) [(7, .create aUno), (7, .truncate aUno 1), (7, .write aUno 0 [121]),
      (7, .commit aUno)]).overWire (enBytes discoDeSeis (id : Bytes → Bytes))
        (formatearFs discoDeSeis) [] = some (r, s', []) ∧ Representacion unaPagina r.1 := by
  obtain ⟨mc⟩ := hay_malloc
  have short : Corto 2 aUno := ⟨⟨a1, rfl, rfl⟩, by decide⟩
  have seven : Cabe (.entero 7) := by decide
  have unit : discoDeSeis.tamanioBloque + 12 < 2 ^ 31 := by decide
  have room : Holgura unaPagina 2 := by
    show 2 * 2 + 64 + 1 / 1 * (1 + 12) < 2 ^ 31
    decide
  obtain ⟨r, s', run, _, rep⟩ := instrucciones_en_linea unit room (id : Bytes → Bytes)
    (formatearFs discoDeSeis) mc [(7, .create aUno), (7, .truncate aUno 1),
      (7, .write aUno 0 [121]), (7, .commit aUno)] (by
        simp only [List.forall_mem_cons, InstruccionCabe]
        exact ⟨⟨seven, short⟩, ⟨seven, short, by decide⟩, ⟨seven, short, by decide⟩,
          ⟨seven, short⟩, by simp⟩)
  exact ⟨mc, r, s', run, rep⟩

end SistemaEnLinea
