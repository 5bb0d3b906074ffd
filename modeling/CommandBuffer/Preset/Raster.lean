import CommandBuffer.Definition.Protocol

/-! # The raster protocol

The raster protocol carries texture, query, synchronisation and paint-cache
commands from a raster client to the service. Its command ids start right after
the common commands.
-/

namespace CommandBuffer.Raster

/-- The lines of the signature file. -/
def functionLines : List String := [
  "// Raster command buffer function signatures.",
  "//",
  "// One declaration per line: ReturnType Name(Type arg, ...);",
  "// A parameter type may carry a named type as GLenum<QueryTarget>; a bare",
  "// registered name such as gfx::BufferUsage also refers to a named type.",
  "",
  "void DeleteTextures(GLsizei n, const GLuint* textures);",
  "void Finish();",
  "void Flush();",
  "GLenum GetError();",
  "void GetIntegerv(GLenum<GLState> pname, GLint* params);",
  "void ShallowFlushCHROMIUM();",
  "void OrderingBarrierCHROMIUM();",
  "",
  "// Extension KHR_robustness",
  "GLenum GetGraphicsResetStatusKHR();",
  "",
  "// Queries",
  "void GenQueriesEXT(GLsizei n, GLuint* queries);",
  "void DeleteQueriesEXT(GLsizei n, const GLuint* queries);",
  "void BeginQueryEXT(GLenum<QueryTarget> target, GLuint id);",
  "void EndQueryEXT(GLenum<QueryTarget> target);",
  "void GetQueryObjectuivEXT(GLuint id, GLenum<QueryObjectParameter> pname, GLuint* params);",
  "",
  "// Textures and images",
  "GLuint CreateAndConsumeTexture(bool use_buffer, gfx::BufferUsage buffer_usage, " ++
    "viz::ResourceFormat format, const GLbyte* mailbox);",
  "void CreateAndConsumeTextureINTERNAL(GLuint texture_id, bool use_buffer, " ++
    "gfx::BufferUsage buffer_usage, viz::ResourceFormat format, const GLbyte* mailbox);",
  "GLuint CreateImageCHROMIUM(ClientBuffer buffer, GLsizei width, GLsizei height, GLenum " ++
    "internalformat);",
  "void CopySubTexture(GLuint source_id, GLuint dest_id, GLint xoffset, GLint yoffset, " ++
    "GLint x, GLint y, GLsizei width, GLsizei height);",
  "void DestroyImageCHROMIUM(GLuint image_id);",
  "void ProduceTextureDirect(GLuint texture, const GLbyte* mailbox);",
  "void TexParameteri(GLuint texture_id, GLenum<TextureParameter> pname, GLint param);",
  "void BindTexImage2DCHROMIUM(GLuint texture_id, GLint image_id);",
  "void ReleaseTexImage2DCHROMIUM(GLuint texture_id, GLint image_id);",
  "void TexStorage2D(GLuint texture_id, GLsizei levels, GLsizei width, GLsizei height);",
  "void WaitSync(GLsync sync, GLbitfield flags, GLuint64 timeout);",
  "",
  "// Extension CHROMIUM_trace_marker",
  "void TraceBeginCHROMIUM(const char* category_name, const char* trace_name);",
  "void TraceEndCHROMIUM();",
  "void SetActiveURLCHROMIUM(const char* url);",
  "",
  "// Extension CHROMIUM_sync_point",
  "GLuint64 InsertFenceSyncCHROMIUM();",
  "void GenSyncTokenCHROMIUM(GLbyte* sync_token);",
  "void GenUnverifiedSyncTokenCHROMIUM(GLbyte* sync_token);",
  "void VerifySyncTokensCHROMIUM(GLbyte** sync_tokens, GLsizei count);",
  "void WaitSyncTokenCHROMIUM(const GLbyte* sync_token);",
  "",
  "// Extension CHROMIUM_lose_context",
  "void LoseContextCHROMIUM(GLenum<ResetStatus> current, GLenum<ResetStatus> other);",
  "",
  "// Extension CHROMIUM_discardable_textures",
  "void InitializeDiscardableTextureCHROMIUM(GLuint texture_id);",
  "void UnlockDiscardableTextureCHROMIUM(GLuint texture_id);",
  "bool LockDiscardableTextureCHROMIUM(GLuint texture_id);",
  "",
  "// Extension CHROMIUM_raster_transport",
  "void BeginRasterCHROMIUM(GLuint texture_id, GLuint sk_color, GLuint msaa_sample_count, " ++
    "GLboolean can_use_lcd_text, GLint color_type, GLuint color_space_transfer_cache_id, " ++
    "const GLbyte* mailbox);",
  "void RasterCHROMIUM(GLuint raster_shm_id, GLuint raster_shm_offset, GLsizeiptr " ++
    "raster_shm_size, GLuint font_shm_id, GLuint font_shm_offset, GLsizeiptr font_shm_size);",
  "void EndRasterCHROMIUM();",
  "",
  "// Transfer and paint caches",
  "void CreateTransferCacheEntryINTERNAL(GLuint entry_type, GLuint entry_id, GLuint " ++
    "handle_shm_id, GLuint handle_shm_offset, GLuint data_shm_id, GLuint data_shm_offset, " ++
    "GLuint data_size);",
  "void DeleteTransferCacheEntryINTERNAL(GLuint entry_type, GLuint entry_id);",
  "void UnlockTransferCacheEntryINTERNAL(GLuint entry_type, GLuint entry_id);",
  "void DeletePaintCacheTextBlobsINTERNAL(GLsizei n, const GLuint* ids);",
  "void DeletePaintCachePathsINTERNAL(GLsizei n, const GLuint* ids);",
  "void ClearPaintCacheINTERNAL();",
  "",
  "// Non-GL commands",
  "GLuint CreateTexture(bool use_buffer, gfx::BufferUsage buffer_usage, " ++
    "viz::ResourceFormat format);",
  "void SetColorSpaceMetadata(GLuint texture_id, GLColorSpace color_space);",
  "void UnpremultiplyAndDitherCopyCHROMIUM(GLuint source_id, GLuint dest_id, GLint x, " ++
    "GLint y, GLsizei width, GLsizei height);"]

/-- The signature file: every line ends in a newline. -/
def functions : String := String.join (functionLines.map (· ++ "\n"))

/-- The named types that the signatures refer to. -/
def namedTypes : List NamedType := [
  { name := "GLState", underlying := "GLenum",
    legal := ["GL_ACTIVE_TEXTURE"],
    illegal := ["GL_FOG_HINT"] },
  { name := "QueryObjectParameter", underlying := "GLenum",
    legal := [
      "GL_QUERY_RESULT_EXT", "GL_QUERY_RESULT_AVAILABLE_EXT",
      "GL_QUERY_RESULT_AVAILABLE_NO_FLUSH_CHROMIUM_EXT"],
    illegal := [],
    isComplete := true },
  { name := "QueryTarget", underlying := "GLenum",
    legal := ["GL_COMMANDS_ISSUED_CHROMIUM", "GL_COMMANDS_COMPLETED_CHROMIUM"],
    illegal := ["GL_LATENCY_QUERY_CHROMIUM"],
    isComplete := true },
  { name := "TextureParameter", underlying := "GLenum",
    legal := [
      "GL_TEXTURE_MAG_FILTER", "GL_TEXTURE_MIN_FILTER", "GL_TEXTURE_WRAP_S",
      "GL_TEXTURE_WRAP_T"],
    illegal := ["GL_GENERATE_MIPMAP"] },
  { name := "TextureWrapMode", underlying := "GLenum",
    legal := ["GL_CLAMP_TO_EDGE"],
    illegal := ["GL_REPEAT"] },
  { name := "TextureMinFilterMode", underlying := "GLenum",
    legal := ["GL_NEAREST"],
    illegal := ["GL_NEAREST_MIPMAP_NEAREST"] },
  { name := "TextureMagFilterMode", underlying := "GLenum",
    legal := ["GL_NEAREST"],
    illegal := ["GL_LINEAR"] },
  { name := "ResetStatus", underlying := "GLenum",
    legal := [
      "GL_GUILTY_CONTEXT_RESET_ARB", "GL_INNOCENT_CONTEXT_RESET_ARB",
      "GL_UNKNOWN_CONTEXT_RESET_ARB"],
    illegal := [],
    isComplete := true },
  { name := "gfx::BufferUsage", underlying := "gfx::BufferUsage",
    legal := [
      "gfx::BufferUsage::GPU_READ", "gfx::BufferUsage::SCANOUT",
      "gfx::BufferUsage::GPU_READ_CPU_READ_WRITE",
      "gfx::BufferUsage::GPU_READ_CPU_READ_WRITE_PERSISTENT"],
    illegal := [
      "gfx::BufferUsage::SCANOUT_CAMERA_READ_WRITE",
      "gfx::BufferUsage::CAMERA_AND_CPU_READ_WRITE"] },
  { name := "viz::ResourceFormat", underlying := "viz::ResourceFormat",
    legal := [
      "viz::ResourceFormat::RGBA_8888", "viz::ResourceFormat::RGBA_4444",
      "viz::ResourceFormat::BGRA_8888", "viz::ResourceFormat::ALPHA_8",
      "viz::ResourceFormat::LUMINANCE_8", "viz::ResourceFormat::RGB_565",
      "viz::ResourceFormat::BGR_565", "viz::ResourceFormat::RED_8",
      "viz::ResourceFormat::RG_88", "viz::ResourceFormat::LUMINANCE_F16",
      "viz::ResourceFormat::RGBA_F16", "viz::ResourceFormat::R16_EXT",
      "viz::ResourceFormat::RGBX_8888", "viz::ResourceFormat::BGRX_8888",
      "viz::ResourceFormat::RGBX_1010102", "viz::ResourceFormat::BGRX_1010102",
      "viz::ResourceFormat::YVU_420", "viz::ResourceFormat::YUV_420_BIPLANAR",
      "viz::ResourceFormat::UYVY_422"],
    illegal := ["viz::ResourceFormat::ETC1"] }]

/-- Mailbox names have sixteen bytes on the wire. -/
def mailboxSize : Nat := 16

/-- The directives for single functions. -/
def overrides : List Override := [
  { name := "CreateAndConsumeTexture", strategy := some .noCommand, traceLevel := some 2 },
  { name := "CreateAndConsumeTextureINTERNAL", strategy := some .put,
    decoder := some "do_create_and_consume_texture_internal", isInternal := true,
    count := some mailboxSize, hasUnitTest := false, traceLevel := some 2 },
  { name := "CreateImageCHROMIUM", strategy := some .noCommand,
    arguments := some ("ClientBuffer buffer, GLsizei width, GLsizei height, GLenum " ++
      "internalformat"), traceLevel := some 1 },
  { name := "CopySubTexture", decoder := some "do_copy_sub_texture", hasUnitTest := false,
    traceLevel := some 2 },
  { name := "DestroyImageCHROMIUM", strategy := some .noCommand, traceLevel := some 1 },
  { name := "DeleteTextures", strategy := some .delN, resource := some "Textures" },
  { name := "Finish", hasGeneratedMarshal := false, hasClientTest := false,
    decoder := some "do_finish", traceLevel := some 1 },
  { name := "Flush", hasGeneratedMarshal := false, decoder := some "do_flush",
    traceLevel := some 1 },
  { name := "GetError", strategy := some .is, decoder := some "get_gl_error",
    hasGeneratedMarshal := false, hasClientTest := false },
  { name := "GetGraphicsResetStatusKHR", strategy := some .noCommand, traceLevel := some 1 },
  { name := "GetIntegerv", strategy := some .getN, decoder := some "do_get_integerv",
    hasClientTest := false },
  { name := "ProduceTextureDirect", strategy := some .put,
    decoder := some "do_produce_texture_direct", hasGeneratedMarshal := false,
    count := some mailboxSize, hasUnitTest := false, hasClientTest := false,
    traceLevel := some 1 },
  { name := "TexParameteri", decoder := some "do_tex_parameteri", hasUnitTest := false,
    testValues := [(2, "GL_NEAREST")] },
  { name := "TexStorage2D", decoder := some "do_tex_storage_2d", hasUnitTest := false },
  { name := "WaitSync", strategy := some .custom,
    arguments := some "GLuint sync, GLbitfield flags, GLuint64 timeout",
    hasGeneratedMarshal := false, hasClientTest := false, traceLevel := some 1 },
  { name := "GenQueriesEXT", strategy := some .genN, expectedCall := some "gen_queries_arb",
    resource := some "Queries", hasUnitTest := false, isUnshared := true },
  { name := "DeleteQueriesEXT", strategy := some .delN,
    expectedCall := some "delete_queries_arb", resource := some "Queries", hasUnitTest := false },
  { name := "BeginQueryEXT", strategy := some .custom, hasGeneratedMarshal := false,
    arguments := some "GLenum<QueryTarget> target, GLuint id, void* sync_data",
    transfers := some [.shm], expectedCall := some "begin_query" },
  { name := "EndQueryEXT", strategy := some .custom, hasGeneratedMarshal := false,
    arguments := some "GLenum<QueryTarget> target, GLuint submit_count",
    expectedCall := some "end_query", hasClientTest := false },
  { name := "GetQueryObjectuivEXT", strategy := some .noCommand,
    expectedCall := some "get_query_objectuiv" },
  { name := "BindTexImage2DCHROMIUM", decoder := some "do_bind_tex_image_2d_chromium",
    hasUnitTest := false },
  { name := "ReleaseTexImage2DCHROMIUM", decoder := some "do_release_tex_image_2d_chromium",
    hasUnitTest := false },
  { name := "ShallowFlushCHROMIUM", strategy := some .noCommand },
  { name := "OrderingBarrierCHROMIUM", strategy := some .noCommand },
  { name := "TraceBeginCHROMIUM", strategy := some .custom, hasGeneratedMarshal := false,
    hasClientTest := false, arguments := some "GLuint category_bucket_id, GLuint name_bucket_id",
    extension := some ⟨"CHROMIUM_trace_marker", none⟩ },
  { name := "TraceEndCHROMIUM", hasGeneratedMarshal := false, hasClientTest := false,
    decoder := some "do_trace_end_chromium", hasUnitTest := false,
    extension := some ⟨"CHROMIUM_trace_marker", none⟩ },
  { name := "SetActiveURLCHROMIUM", strategy := some .custom, hasGeneratedMarshal := false,
    hasClientTest := false, arguments := some "GLuint url_bucket_id" },
  { name := "InsertFenceSyncCHROMIUM", strategy := some .custom, isInternal := true,
    hasGeneratedMarshal := false, arguments := some "GLuint64 release_count",
    traceLevel := some 1 },
  { name := "LoseContextCHROMIUM", decoder := some "do_lose_context_chromium",
    hasUnitTest := false, traceLevel := some 1 },
  { name := "GenSyncTokenCHROMIUM", strategy := some .noCommand },
  { name := "GenUnverifiedSyncTokenCHROMIUM", strategy := some .noCommand },
  { name := "VerifySyncTokensCHROMIUM", strategy := some .noCommand },
  { name := "WaitSyncTokenCHROMIUM", strategy := some .custom, hasGeneratedMarshal := false,
    arguments := some "GLint namespace_id, GLuint64 command_buffer_id, GLuint64 release_count",
    hasClientTest := false },
  { name := "InitializeDiscardableTextureCHROMIUM", strategy := some .custom,
    arguments := some "GLuint texture_id, uint32_t shm_id, uint32_t shm_offset",
    hasGeneratedMarshal := false, hasClientTest := false },
  { name := "UnlockDiscardableTextureCHROMIUM", strategy := some .custom,
    arguments := some "GLuint texture_id", hasGeneratedMarshal := false, hasClientTest := false },
  { name := "LockDiscardableTextureCHROMIUM", strategy := some .custom,
    arguments := some "GLuint texture_id", hasGeneratedMarshal := false, hasClientTest := false },
  { name := "BeginRasterCHROMIUM", decoder := some "do_begin_raster_chromium",
    strategy := some .put, count := some mailboxSize, isInternal := true,
    hasGeneratedMarshal := false, hasUnitTest := false },
  { name := "RasterCHROMIUM", decoder := some "do_raster_chromium", isInternal := true,
    arguments := some ("GLuint raster_shm_id, GLuint raster_shm_offset, GLsizeiptr " ++
      "raster_shm_size, GLuint font_shm_id, GLuint font_shm_offset, GLsizeiptr font_shm_size"),
    extension := some ⟨"CHROMIUM_raster_transport", some "chromium_raster_transport"⟩ },
  { name := "EndRasterCHROMIUM", decoder := some "do_end_raster_chromium",
    hasGeneratedMarshal := false, hasUnitTest := false, hasClientTest := false },
  { name := "CreateTransferCacheEntryINTERNAL",
    decoder := some "do_create_transfer_cache_entry_internal",
    arguments := some ("GLuint entry_type, GLuint entry_id, GLuint handle_shm_id, GLuint " ++
      "handle_shm_offset, GLuint data_shm_id, GLuint data_shm_offset, GLuint data_size"),
    isInternal := true, hasClientTest := false, hasUnitTest := false },
  { name := "DeleteTransferCacheEntryINTERNAL",
    decoder := some "do_delete_transfer_cache_entry_internal",
    arguments := some "GLuint entry_type, GLuint entry_id", isInternal := true,
    hasClientTest := false, hasUnitTest := false },
  { name := "DeletePaintCacheTextBlobsINTERNAL", strategy := some .delN, isInternal := true,
    hasUnitTest := false },
  { name := "DeletePaintCachePathsINTERNAL", strategy := some .delN, isInternal := true,
    hasUnitTest := false },
  { name := "ClearPaintCacheINTERNAL", decoder := some "do_clear_paint_cache_internal",
    isInternal := true, hasUnitTest := false },
  { name := "UnlockTransferCacheEntryINTERNAL",
    decoder := some "do_unlock_transfer_cache_entry_internal",
    arguments := some "GLuint entry_type, GLuint entry_id", isInternal := true,
    hasClientTest := false, hasUnitTest := false },
  { name := "CreateTexture", strategy := some .create, resource := some "Textures",
    decoder := some "do_create_texture", isUnshared := true, hasUnitTest := false },
  { name := "SetColorSpaceMetadata", strategy := some .custom, hasGeneratedMarshal := false,
    hasClientTest := false,
    arguments := some ("GLuint texture_id, GLuint shm_id, GLuint shm_offset, GLsizei " ++
      "color_space_size") },
  { name := "UnpremultiplyAndDitherCopyCHROMIUM",
    decoder := some "do_unpremultiply_and_dither_copy_chromium",
    arguments := some ("GLuint source_id, GLuint dest_id, GLint x, GLint y, GLsizei width, " ++
      "GLsizei height"), hasClientTest := false, hasUnitTest := false }]

/-- The raster protocol; its types and overrides are checked like any other's. -/
def protocol : Except DefinitionError Protocol := do
  let types ← Registry.ofList namedTypes
  let overrides ← OverrideTable.ofList overrides
  return {
    name := "Raster"
    filePrefix := "raster"
    description := "Raster command buffer protocol"
    commandBase := 256
    supportPath := "crate::command_buffer"
    types
    overrides
    functions }

end CommandBuffer.Raster
