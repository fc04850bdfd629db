import Worksheet.Calendar.ZoneEntry

/-!
# Zones: America, from A to G

One entry for each zone of the time zone database, in the order of their names.
-/

namespace Worksheet.Zones

def americaFirst : List ZoneEntry := [
  ⟨"America/Adak", [⟨"LMT", 44002⟩, ⟨"LMT", (-42398)⟩, ⟨"NST", (-39600)⟩, ⟨"NWT", (-36000)⟩,
      ⟨"NPT", (-36000)⟩, ⟨"BST", (-39600)⟩, ⟨"BDT", (-36000)⟩, ⟨"AHST", (-36000)⟩,
      ⟨"HDT", (-32400)⟩, ⟨"HST", (-36000)⟩],
    ["cta575Bh4z1xpCln70qaD1tyug0E2e6s0Cb7yik0F12y080G9cyk0F9d440G9cyk0F9d440G9px80F9d440G9cyk0F",
     "9d440G9cyk0F3lpg0Gf4d80F64g40Gclmk0F9d440G9px80F905g0G9px80F9d440G9cyk0F9d440G9cyk0F9d440G",
     "9cyk0F9d440G9cyk0F9d440G9px80F905g0G9px80H1l940J7rs80I9cyk0J9d440I9cyk0J9d440I9cyk0J8a840I",
     "afuk0J8a840Iast80J7x9g0Iast80J7x9g0Iast80J8a840Iafuk0J8a840Iafuk0J8a840Iast80J7x9g0Iast80J",
     "7x9g0Iast80J8a840Iafuk0J8a840Iafuk0J8a840Iafuk0J8a840Iast80J7x9g0Iast80J7x9g0Iast80J8a840I",
     "afuk0J8a840Iafuk0J8a840Iast80J7x9g0Iast80J7x9g0Iast80J6udg0I"],
    .seasonal ⟨"HST", (-36000)⟩ ⟨"HDT", (-32400)⟩ ⟨3, 2, 0, 7200⟩ ⟨11, 1, 0, 7200⟩⟩,
  ⟨"America/Anchorage", [⟨"LMT", 50424⟩, ⟨"LMT", (-35976)⟩, ⟨"AST", (-36000)⟩, ⟨"AWT", (-32400)⟩,
      ⟨"APT", (-32400)⟩, ⟨"AHST", (-36000)⟩, ⟨"AHDT", (-32400)⟩, ⟨"YST", (-32400)⟩,
      ⟨"AKDT", (-28800)⟩, ⟨"AKST", (-32400)⟩],
    ["cta575Bh4ywzbCln72woD1tyx80E2e400Cb7yik0F12y080G9cyk0F9d440G9cyk0F9d440G9px80F9d440G9cyk0F",
     "9d440G9cyk0F3lpg0Gf4d80F64g40Gclmk0F9d440G9px80F905g0G9px80F9d440G9cyk0F9d440G9cyk0F9d440G",
     "9cyk0F9d440G9cyk0F9d440G9px80F905g0G9px80H1l940J7rs80I9cyk0J9d440I9cyk0J9d440I9cyk0J8a840I",
     "afuk0J8a840Iast80J7x9g0Iast80J7x9g0Iast80J8a840Iafuk0J8a840Iafuk0J8a840Iast80J7x9g0Iast80J",
     "7x9g0Iast80J8a840Iafuk0J8a840Iafuk0J8a840Iafuk0J8a840Iast80J7x9g0Iast80J7x9g0Iast80J8a840I",
     "afuk0J8a840Iafuk0J8a840Iast80J7x9g0Iast80J7x9g0Iast80J6udg0I"],
    .seasonal ⟨"AKST", (-32400)⟩ ⟨"AKDT", (-28800)⟩ ⟨3, 2, 0, 7200⟩ ⟨11, 1, 0, 7200⟩⟩,
  ⟨"America/Araguaina", [⟨"LMT", (-11568)⟩, ⟨"-02", (-7200)⟩, ⟨"-03", (-10800)⟩],
    ["10xccogC99k8moB9a9c0C9io40B99980C8p65g0B6zuo0Cbs2o0B67zw0Ccjxg0B69uk0Ccjxg0B4ml80C5mf440B",
     "49mk0Chaas0B316k0Ccls40B4ml80Ccls40B66580Ccls40B67zw0C981s40B6u7w0Cbiw40B5rbw0Cd0lg0B5ed80C",
     "cyqs0B5ed80Cdbpg0B64ak0C2yl440B64ak0Cc8tg0B6u7w0Cbxpg0B7iak0Cbiw40B6u7w0Cbiw40B7k580Cbiw40B",
     "6u7w0Cc8tg0B6h980Cdbpg0B5ed80C51udg0B64ak0C"],
    .steady ⟨"-03", (-10800)⟩⟩,
  ⟨"America/Argentina/Buenos_Aires", [⟨"LMT", (-14028)⟩, ⟨"CMT", (-15408)⟩, ⟨"-04", (-14400)⟩,
      ⟨"-03", (-10800)⟩, ⟨"-02", (-7200)⟩],
    ["qx7l8sBdb2bqcC5iv8k0D67zw0Ca4w40D73h80Ccls40D66580Ccls40D66580Ccls40D66580Ccls40D67zw0C",
     "cls40D66580Ccls40D66580Ccls40D66580Ccls40D67zw0C6a040Dhy7w0C6a040Dxovw0C3uys0D18nbw0Cb0dg0D",
     "8ve2k0C3uys0D3yik0Cbqas0D71mk0Cbqas0D71mk0Cbqas0D8ovw0C9d440D9px80C9d440D9cyk0C9d440D",
     "28t6k0E51ek0D7m2qs0E4tzw0Dbiw40E776k0Dbvus0E6u7w0Dbvus0E6u7w0Dbvus0E776k0D3fidg0D7thc0D",
     "430lc0E3yik0Db5xg0E7k580D"],
    .steady ⟨"-03", (-10800)⟩⟩,
  ⟨"America/Argentina/Catamarca", [⟨"LMT", (-15788)⟩, ⟨"CMT", (-15408)⟩, ⟨"-04", (-14400)⟩,
      ⟨"-03", (-10800)⟩, ⟨"-02", (-7200)⟩],
    ["qx7mloBdb2adgC5iv8k0D67zw0Ca4w40D73h80Ccls40D66580Ccls40D66580Ccls40D66580Ccls40D67zw0C",
     "cls40D66580Ccls40D66580Ccls40D66580Ccls40D67zw0C6a040Dhy7w0C6a040Dxovw0C3uys0D18nbw0Cb0dg0D",
     "8ve2k0C3uys0D3yik0Cbqas0D71mk0Cbqas0D71mk0Cbqas0D8ovw0C9d440D9px80C9d440D9cyk0C9d440D",
     "28t6k0E51ek0D7m2qs0E4tzw0Dbiw40E776k0Dbvus0E6u7w0Cbvxk0E6u540Dbvus0E776k0D3fidg0D7thc0D",
     "27s800Cz9g0D1u93w0E3yik0D"],
    .steady ⟨"-03", (-10800)⟩⟩,
  ⟨"America/Argentina/Cordoba", [⟨"LMT", (-15408)⟩, ⟨"CMT", (-15408)⟩, ⟨"-04", (-14400)⟩,
      ⟨"-03", (-10800)⟩, ⟨"-02", (-7200)⟩],
    ["qx7mb4Bdb2ao0C5iv8k0D67zw0Ca4w40D73h80Ccls40D66580Ccls40D66580Ccls40D66580Ccls40D67zw0C",
     "cls40D66580Ccls40D66580Ccls40D66580Ccls40D67zw0C6a040Dhy7w0C6a040Dxovw0C3uys0D18nbw0Cb0dg0D",
     "8ve2k0C3uys0D3yik0Cbqas0D71mk0Cbqas0D71mk0Cbqas0D8ovw0C9d440D9px80C9d440D9cyk0C9d440D",
     "28t6k0E51ek0D7m2qs0E4tzw0Dbiw40E776k0Dbvus0E6u7w0Cbvxk0E6u540Dbvus0E776k0D3fidg0D7thc0D",
     "430lc0E3yik0Db5xg0E7k580D"],
    .steady ⟨"-03", (-10800)⟩⟩,
  ⟨"America/Argentina/Jujuy", [⟨"LMT", (-15672)⟩, ⟨"CMT", (-15408)⟩, ⟨"-04", (-14400)⟩,
      ⟨"-03", (-10800)⟩, ⟨"-02", (-7200)⟩],
    ["qx7migBdb2agoC5iv8k0D67zw0Ca4w40D73h80Ccls40D66580Ccls40D66580Ccls40D66580Ccls40D67zw0C",
     "cls40D66580Ccls40D66580Ccls40D66580Ccls40D67zw0C6a040Dhy7w0C6a040Dxovw0C3uys0D18nbw0Cb0dg0D",
     "8ve2k0C3uys0D3yik0Cbqas0D71mk0Cbqas0D71mk0Cbqas0D8ovw0C9d440D9px80C9d440D9cyk0C9d440D",
     "28t6k0E51ek0D7m2qs0E4tzw0Dbiw40E776k0Cc8w80D776k0Cag040E7k2g0Dbvus0E776k0D3fidg0D7thc0D",
     "430lc0E3yik0D"],
    .steady ⟨"-03", (-10800)⟩⟩,
  ⟨"America/Argentina/La_Rioja", [⟨"LMT", (-16044)⟩, ⟨"CMT", (-15408)⟩, ⟨"-04", (-14400)⟩,
      ⟨"-03", (-10800)⟩, ⟨"-02", (-7200)⟩],
    ["qx7mssBdb2a6cC5iv8k0D67zw0Ca4w40D73h80Ccls40D66580Ccls40D66580Ccls40D66580Ccls40D67zw0C",
     "cls40D66580Ccls40D66580Ccls40D66580Ccls40D67zw0C6a040Dhy7w0C6a040Dxovw0C3uys0D18nbw0Cb0dg0D",
     "8ve2k0C3uys0D3yik0Cbqas0D71mk0Cbqas0D71mk0Cbqas0D8ovw0C9d440D9px80C9d440D9cyk0C9d440D",
     "28t6k0E51ek0D7m2qs0E4tzw0Dbiw40E776k0Dbvus0E6qik0C3g880D8jbw0E6u7w0Dbvus0E776k0D3fidg0D",
     "7thc0D27s800Cz9g0D1u93w0E3yik0D"],
    .steady ⟨"-03", (-10800)⟩⟩,
  ⟨"America/Argentina/Mendoza", [⟨"LMT", (-16516)⟩, ⟨"CMT", (-15408)⟩, ⟨"-04", (-14400)⟩,
      ⟨"-03", (-10800)⟩, ⟨"-02", (-7200)⟩],
    ["qx7n5wBdb29t8C5iv8k0D67zw0Ca4w40D73h80Ccls40D66580Ccls40D66580Ccls40D66580Ccls40D67zw0C",
     "cls40D66580Ccls40D66580Ccls40D66580Ccls40D67zw0C6a040Dhy7w0C6a040Dxovw0C3uys0D18nbw0Cb0dg0D",
     "8ve2k0C3uys0D3yik0Cbqas0D71mk0Cbqas0D71mk0Cbqas0D8ovw0C9d440D9px80C9d440D9cyk0C9d440D",
     "28t6k0E51ek0D7m2qs0E4tzw0Dbiw40E776k0Cbktk0D71mk0Cbqas0D73h80Cbvus0E773s0D3fidg0D7thc0D",
     "27bk00C6hes0D1p7mk0E3yik0D"],
    .steady ⟨"-03", (-10800)⟩⟩,
  ⟨"America/Argentina/Rio_Gallegos", [⟨"LMT", (-16612)⟩, ⟨"CMT", (-15408)⟩, ⟨"-04", (-14400)⟩,
      ⟨"-03", (-10800)⟩, ⟨"-02", (-7200)⟩],
    ["qx7n8kBdb29qkC5iv8k0D67zw0Ca4w40D73h80Ccls40D66580Ccls40D66580Ccls40D66580Ccls40D67zw0C",
     "cls40D66580Ccls40D66580Ccls40D66580Ccls40D67zw0C6a040Dhy7w0C6a040Dxovw0C3uys0D18nbw0Cb0dg0D",
     "8ve2k0C3uys0D3yik0Cbqas0D71mk0Cbqas0D71mk0Cbqas0D8ovw0C9d440D9px80C9d440D9cyk0C9d440D",
     "28t6k0E51ek0D7m2qs0E4tzw0Dbiw40E776k0Dbvus0E6u7w0Dbvus0E6u7w0Dbvus0E776k0D3fidg0D7thc0D",
     "27s800Cz9g0D1u93w0E3yik0D"],
    .steady ⟨"-03", (-10800)⟩⟩,
  ⟨"America/Argentina/Salta", [⟨"LMT", (-15700)⟩, ⟨"CMT", (-15408)⟩, ⟨"-04", (-14400)⟩,
      ⟨"-03", (-10800)⟩, ⟨"-02", (-7200)⟩],
    ["qx7mj8Bdb2afwC5iv8k0D67zw0Ca4w40D73h80Ccls40D66580Ccls40D66580Ccls40D66580Ccls40D67zw0C",
     "cls40D66580Ccls40D66580Ccls40D66580Ccls40D67zw0C6a040Dhy7w0C6a040Dxovw0C3uys0D18nbw0Cb0dg0D",
     "8ve2k0C3uys0D3yik0Cbqas0D71mk0Cbqas0D71mk0Cbqas0D8ovw0C9d440D9px80C9d440D9cyk0C9d440D",
     "28t6k0E51ek0D7m2qs0E4tzw0Dbiw40E776k0Dbvus0E6u7w0Cbvxk0E6u540Dbvus0E776k0D3fidg0D7thc0D",
     "430lc0E3yik0D"],
    .steady ⟨"-03", (-10800)⟩⟩,
  ⟨"America/Argentina/San_Juan", [⟨"LMT", (-16444)⟩, ⟨"CMT", (-15408)⟩, ⟨"-04", (-14400)⟩,
      ⟨"-03", (-10800)⟩, ⟨"-02", (-7200)⟩],
    ["qx7n3wBdb29v8C5iv8k0D67zw0Ca4w40D73h80Ccls40D66580Ccls40D66580Ccls40D66580Ccls40D67zw0C",
     "cls40D66580Ccls40D66580Ccls40D66580Ccls40D67zw0C6a040Dhy7w0C6a040Dxovw0C3uys0D18nbw0Cb0dg0D",
     "8ve2k0C3uys0D3yik0Cbqas0D71mk0Cbqas0D71mk0Cbqas0D8ovw0C9d440D9px80C9d440D9cyk0C9d440D",
     "28t6k0E51ek0D7m2qs0E4tzw0Dbiw40E776k0Dbvus0E6qik0C3g880D8jbw0E6u7w0Dbvus0E776k0D3fidg0D",
     "7thc0D27qdc0C2txg0D1sgak0E3yik0D"],
    .steady ⟨"-03", (-10800)⟩⟩,
  ⟨"America/Argentina/San_Luis", [⟨"LMT", (-15924)⟩, ⟨"CMT", (-15408)⟩, ⟨"-04", (-14400)⟩,
      ⟨"-03", (-10800)⟩, ⟨"-02", (-7200)⟩],
    ["qx7mpgBdb2a9oC5iv8k0D67zw0Ca4w40D73h80Ccls40D66580Ccls40D66580Ccls40D66580Ccls40D67zw0C",
     "cls40D66580Ccls40D66580Ccls40D66580Ccls40D67zw0C6a040Dhy7w0C6a040Dxovw0C3uys0D18nbw0Cb0dg0D",
     "8ve2k0C3uys0D3yik0Cbqas0D71mk0Cbqas0D71mk0Cbqas0D8ovw0C9d440D9px80C9d440D9cyk0C9d440D",
     "28t6k0E51ek0D7m2qs0E4tzw0Dbiw40E7pp80Cb2aw0D71mk0C4qg40D4conw0D7thc0D27qdc0C2txg0D1sgak0E",
     "14nw0D2gys0Cb5xg0D7k580Cb5xg0D"],
    .steady ⟨"-03", (-10800)⟩⟩,
  ⟨"America/Argentina/Tucuman", [⟨"LMT", (-15652)⟩, ⟨"CMT", (-15408)⟩, ⟨"-04", (-14400)⟩,
      ⟨"-03", (-10800)⟩, ⟨"-02", (-7200)⟩],
    ["qx7mhwBdb2ah8C5iv8k0D67zw0Ca4w40D73h80Ccls40D66580Ccls40D66580Ccls40D66580Ccls40D67zw0C",
     "cls40D66580Ccls40D66580Ccls40D66580Ccls40D67zw0C6a040Dhy7w0C6a040Dxovw0C3uys0D18nbw0Cb0dg0D",
     "8ve2k0C3uys0D3yik0Cbqas0D71mk0Cbqas0D71mk0Cbqas0D8ovw0C9d440D9px80C9d440D9cyk0C9d440D",
     "28t6k0E51ek0D7m2qs0E4tzw0Dbiw40E776k0Dbvus0E6u7w0Cbvxk0E6u540Dbvus0E776k0D3fidg0D7thc0D",
     "27s800Cmas0D1um2k0E3yik0Db5xg0E7k580D"],
    .steady ⟨"-03", (-10800)⟩⟩,
  ⟨"America/Argentina/Ushuaia", [⟨"LMT", (-16392)⟩, ⟨"CMT", (-15408)⟩, ⟨"-04", (-14400)⟩,
      ⟨"-03", (-10800)⟩, ⟨"-02", (-7200)⟩],
    ["qx7n2gBdb29woC5iv8k0D67zw0Ca4w40D73h80Ccls40D66580Ccls40D66580Ccls40D66580Ccls40D67zw0C",
     "cls40D66580Ccls40D66580Ccls40D66580Ccls40D67zw0C6a040Dhy7w0C6a040Dxovw0C3uys0D18nbw0Cb0dg0D",
     "8ve2k0C3uys0D3yik0Cbqas0D71mk0Cbqas0D71mk0Cbqas0D8ovw0C9d440D9px80C9d440D9cyk0C9d440D",
     "28t6k0E51ek0D7m2qs0E4tzw0Dbiw40E776k0Dbvus0E6u7w0Dbvus0E6u7w0Dbvus0E776k0D3fidg0D7thc0D",
     "27oio0C12ys0D1u93w0E3yik0D"],
    .steady ⟨"-03", (-10800)⟩⟩,
  ⟨"America/Asuncion", [⟨"LMT", (-13840)⟩, ⟨"AMT", (-13840)⟩, ⟨"-04", (-14400)⟩, ⟨"-03", (-10800)⟩],
    ["oegx3kBlsruo0CldwofkDs4vw0Cs6w40D7tek0Cb0dg0D7rjw0Cb0dg0D7rjw0Cb0dg0D9cyk0C9eys0D9et80C",
     "9eys0D9cyk0C9eys0D9cyk0C9eys0D9cyk0C9eys0D9et80C9eys0D9cyk0C9eys0D9cyk0C9eys0D9cyk0C9eys0D",
     "9et80C9eys0D9cyk0Cahus0D8a2k0C9eys0D9cyk0C9o840D7k580Cb7s40D93p80C9gtg0D7nuk0Cb42s0D7lzw0C",
     "b5xg0D7tek0Cb9ms0D776k0Cbiw40D7k580Cb5xg0D7x3w0Casys0D7x3w0Casys0D7x3w0Cb5xg0D9cyk0C7kas0D",
     "b5rw0C7x9g0Dast80Ca31g0D7k580Cb5xg0D7k580Cb5xg0D7k580Cbiw40D776k0Cbiw40D776k0Cbiw40D8zzw0C",
     "905g0D9px80C905g0D9px80C9d440D8n180Ca31g0D8n180Ca31g0D8n180Ca31g0D8zzw0C9q2s0D8zzw0C9q2s0D",
     "8zzw0Ca31g0D8n180Ca31g0D8n180Ca31g0D8zzw0C9q2s0D8zzw0C9q2s0D8zzw0C9q2s0D8zzw0Ca31g0Dgl80D"],
    .steady ⟨"-03", (-10800)⟩⟩,
  ⟨"America/Bahia", [⟨"LMT", (-9244)⟩, ⟨"-02", (-7200)⟩, ⟨"-03", (-10800)⟩],
    ["10xcavwC99kaf8B9a9c0C9io40B99980C8p65g0B6zuo0Cbs2o0B67zw0Ccjxg0B69uk0Ccjxg0B4ml80C5mf440B",
     "49mk0Chaas0B316k0Ccls40B4ml80Ccls40B66580Ccls40B67zw0C981s40B6u7w0Cbiw40B5rbw0Cd0lg0B5ed80C",
     "cyqs0B5ed80Cdbpg0B64ak0Ccyqs0B64ak0Ccls40B5rbw0Cdbpg0B51ek0Cdbpg0B6h980Cc8tg0B6h980Cc8tg0B",
     "64ak0Cc8tg0B6u7w0Cbxpg0B7iak0Cbiw40B6u7w0Cbiw40B7k580Cbiw40B6u7w0Cc8tg0B6h980Cdbpg0B5ed80C",
     "4irc40B6u7w0C"],
    .steady ⟨"-03", (-10800)⟩⟩,
  ⟨"America/Bahia_Banderas", [⟨"LMT", (-25260)⟩, ⟨"MST", (-25200)⟩, ⟨"CST", (-21600)⟩,
      ⟨"MDT", (-21600)⟩, ⟨"CDT", (-18000)⟩],
    ["153nr74B2u5s00C1si580B8jhg0D7x3w0B9eys0C591h80Bs5qoc0Dafuk0B8a840Dafuk0B8a840Dafuk0B8a840D",
     "ast80B7x9g0Dast80B9q2s0D7k580B9q2s0Dafuk0B8a840Dafuk0B8a840Dast80B7x9g0Dast80B7x9g0Dast80B",
     "7x9g0Dast80B8a840Dafuk0B8a840Dafuk0B8a840Easqg0C7x9g0East80C7x9g0East80C8a840Eafuk0C8a840E",
     "afuk0C8a840Eafuk0C8a840East80C7x9g0East80C7x9g0East80C8a840Eafuk0C8a840Eafuk0C8a840East80C",
     "7x9g0East80C"],
    .steady ⟨"CST", (-21600)⟩⟩,
  ⟨"America/Barbados", [⟨"LMT", (-14309)⟩, ⟨"ADT", (-10800)⟩, ⟨"AST", (-14400)⟩,
      ⟨"-0330", (-12600)⟩],
    ["zp9dglCfzq06jB6w840Ccjrw0B6hes0Cb7mk0D7ves0Ch3dpc0B5rbw0Ca31g0B8n180Ca31g0B8n180Cag040B",
     "84ik0C"],
    .steady ⟨"AST", (-14400)⟩⟩,
  ⟨"America/Belem", [⟨"LMT", (-11636)⟩, ⟨"-02", (-7200)⟩, ⟨"-03", (-10800)⟩],
    ["10xccqcC99k8ksB9a9c0C9io40B99980C8p65g0B6zuo0Cbs2o0B67zw0Ccjxg0B69uk0Ccjxg0B4ml80C5mf440B",
     "49mk0Chaas0B316k0Ccls40B4ml80Ccls40B66580Ccls40B67zw0C981s40B6u7w0Cbiw40B5rbw0Cd0lg0B5ed80C"],
    .steady ⟨"-03", (-10800)⟩⟩,
  ⟨"America/Belize", [⟨"LMT", (-21168)⟩, ⟨"-0530", (-19800)⟩, ⟨"CST", (-21600)⟩, ⟨"CWT", (-18000)⟩,
      ⟨"CPT", (-18000)⟩, ⟨"CDT", (-18000)⟩],
    ["100fdf4C3edkc0B6ham0Cc8s20B6u9a0Cbvte0B6u9a0Cbvte0B6u9a0Cc8s20B6ham0Cc8s20B6ham0Cc8s20B",
     "6u9a0Cbvte0B6u9a0Cbvte0B6u9a0Cbvte0B6u9a0Cc8s20B6ham0Cc8s20B6ham0Cc8s20B6u9a0Cbvte0B6u9a0C",
     "bvte0B6u9a0Cc8s20B6ham0Cc8s20B6ham0Cc8s20B6ham0Cc8s20B6u9a0Cbvte0B6u9a0Cbvte0B6u9a0Cc8s20B",
     "6ham0Cc8s20B6ham0Cc8s20B6u9a0C6uc20D1mtz80E6c8o0Cxulg0B6u9a0Cbvte0B6u9a0Cbvte0B6u9a0Cc8s20B",
     "6ham0Cc8s20B6ham0Cc8s20B6u9a0Cbvte0B6u9a0Cbvte0B6u9a0Cbvte0B6u9a0Cc8s20B6ham0Cc8s20B6ham0C",
     "c8s20B6u9a0Cbvte0B6u9a0Cbvte0B6u9a0Cc8s20B6ham0Cc8s20B6ham0Cc8s20B6ham0Cc8s20B6u9a0Cbvte0B",
     "6u9a0Cbvte0B6u9a0Cc8s20B6ham0C319de0F3e580C4mcys0F2vmk0C"],
    .steady ⟨"CST", (-21600)⟩⟩,
  ⟨"America/Boa_Vista", [⟨"LMT", (-14560)⟩, ⟨"-03", (-10800)⟩, ⟨"-04", (-14400)⟩],
    ["10xcezkC99k93kB9a9c0C9io40B99980C8p65g0B6zuo0Cbs2o0B67zw0Ccjxg0B69uk0Ccjxg0B4ml80C5mf440B",
     "49mk0Chaas0B316k0Ccls40B4ml80Ccls40B66580Ccls40B67zw0C981s40B6u7w0Cbiw40B5rbw0Cd0lg0B5ed80C",
     "62xk40B7k580Cbiw40Bcvw0C"],
    .steady ⟨"-04", (-14400)⟩⟩,
  ⟨"America/Bogota", [⟨"LMT", (-17776)⟩, ⟨"BMT", (-17776)⟩, ⟨"-04", (-14400)⟩, ⟨"-05", (-18000)⟩],
    ["ldf2swBg0p400D14f1hi8Ceefw0D"],
    .steady ⟨"-05", (-18000)⟩⟩,
  ⟨"America/Boise", [⟨"LMT", (-27889)⟩, ⟨"PDT", (-25200)⟩, ⟨"PST", (-28800)⟩, ⟨"MWT", (-21600)⟩,
      ⟨"MPT", (-21600)⟩, ⟨"MST", (-25200)⟩, ⟨"MDT", (-21600)⟩],
    ["l7hfb4Chxltk0Bast80C7x9g0Bast80C1um840F9s7jw0D1tz5k0E2dvo0Fb9gdg0G9cyk0F9d440G9cyk0F9d440G",
     "9cyk0F9d440G9cyk0F9d440G9px80F9d440G9cyk0F9d440G9cyk0F51k40Gdoik0F64g40Gclmk0F9d440G9px80F",
     "905g0G9px80F9d440G9cyk0F9d440G9cyk0F9d440G9cyk0F9d440G9cyk0F9d440G9px80F905g0G9px80F9d440G",
     "9cyk0F9d440G9cyk0F9d440G9cyk0F8a840Gafuk0F8a840Gast80F7x9g0Gast80F7x9g0Gast80F8a840Gafuk0F",
     "8a840Gafuk0F8a840Gast80F7x9g0Gast80F7x9g0Gast80F8a840Gafuk0F8a840Gafuk0F8a840Gafuk0F8a840G",
     "ast80F7x9g0Gast80F7x9g0Gast80F8a840Gafuk0F8a840Gafuk0F8a840Gast80F7x9g0Gast80F7x9g0Gast80F",
     "6udg0G"],
    .seasonal ⟨"MST", (-25200)⟩ ⟨"MDT", (-21600)⟩ ⟨3, 2, 0, 7200⟩ ⟨11, 1, 0, 7200⟩⟩,
  ⟨"America/Cambridge_Bay", [⟨"-00", 0⟩, ⟨"MWT", (-21600)⟩, ⟨"MPT", (-21600)⟩, ⟨"MST", (-25200)⟩,
      ⟨"MDT", (-21600)⟩, ⟨"CDT", (-18000)⟩, ⟨"CST", (-21600)⟩, ⟨"EST", (-18000)⟩],
    ["1421if4Dbjeec0B1tz5k0C2dvo0Ddvfpg0E9cyk0D9d440E9cyk0D9d440E9cyk0D9d440E9cyk0D9d440E9px80D",
     "905g0E9px80D9d440E9cyk0D9d440E9cyk0D9d440E9cyk0D9d440E9cyk0D9d440E9px80D905g0E9px80D9d440E",
     "9cyk0D9d440E9cyk0D9d440E9cyk0D8a840Eafuk0D8a840East80D7x9g0East80D7x9g0East80D8a840Eafuk0D",
     "8a840Eafuk0D8a840East80D7x9g0East80D7x9g0East80D8a840Eafuk0D8a840Eafuk0D8a840Eafuk0D8a840E",
     "ast80G7x6o0Fast80Hct40G7kj40East80D8a840Eafuk0D8a840Eafuk0D8a840East80D7x9g0East80D7x9g0E",
     "ast80D6udg0E"],
    .seasonal ⟨"MST", (-25200)⟩ ⟨"MDT", (-21600)⟩ ⟨3, 2, 0, 7200⟩ ⟨11, 1, 0, 7200⟩⟩,
  ⟨"America/Campo_Grande", [⟨"LMT", (-13108)⟩, ⟨"-03", (-10800)⟩, ⟨"-04", (-14400)⟩],
    ["10xcdv8C99ka7wB9a9c0C9io40B99980C8p65g0B6zuo0Cbs2o0B67zw0Ccjxg0B69uk0Ccjxg0B4ml80C5mf440B",
     "49mk0Chaas0B316k0Ccls40B4ml80Ccls40B66580Ccls40B67zw0C981s40B6u7w0Cbiw40B5rbw0Cd0lg0B5ed80C",
     "cyqs0B5ed80Cdbpg0B64ak0Ccyqs0B64ak0Ccls40B5rbw0Cdbpg0B51ek0Cdbpg0B6h980Cc8tg0B6h980Cc8tg0B",
     "64ak0Cc8tg0B6u7w0Cbxpg0B7iak0Cbiw40B6u7w0Cbiw40B7k580Cbiw40B6u7w0Cc8tg0B6h980Cdbpg0B5ed80C",
     "cls40B64ak0Cdfes0B5nmk0Cc8tg0B6h980Cdbpg0B5rbw0Cbvus0B6h980Ccls40B64ak0Ccls40B6h980Cc8tg0B",
     "6h980Cc8tg0B6u7w0Cc8tg0B64ak0Ccls40B64ak0Ccls40B6h980Cc8tg0B6h980Cc8tg0B6h980Cc8tg0B6h980C",
     "dbpg0B5ed80C"],
    .steady ⟨"-04", (-14400)⟩⟩,
  ⟨"America/Cancun", [⟨"LMT", (-20824)⟩, ⟨"CST", (-21600)⟩, ⟨"EST", (-18000)⟩, ⟨"CDT", (-18000)⟩,
      ⟨"EDT", (-14400)⟩],
    ["153nof4Bvb0dk0Cj8d00B6x2wc0Dafuk0B8a840Dafuk0C8a5c0E64ak0D4bms0B8a840Dast80B7x9g0Dast80B",
     "9q2s0D7k580B9q2s0Dafuk0B8a840Dafuk0B8a840Dast80B7x9g0Dast80B7x9g0Dast80B7x9g0Dast80B8a840D",
     "afuk0B8a840Dafuk0B8a840Dast80B7x9g0Dast80B7x9g0Dast80B8a840Dafuk0B8a840Dafuk0B51k40C"],
    .steady ⟨"EST", (-18000)⟩⟩,
  ⟨"America/Caracas", [⟨"LMT", (-16064)⟩, ⟨"CMT", (-16060)⟩, ⟨"-0430", (-16200)⟩,
      ⟨"-04", (-14400)⟩],
    ["oegytcBbjfjzwCrlo83wDmeoxm0C4dps00D"],
    .steady ⟨"-04", (-14400)⟩⟩,
  ⟨"America/Cayenne", [⟨"LMT", (-12560)⟩, ⟨"-04", (-14400)⟩, ⟨"-03", (-10800)⟩],
    ["zm9xg0Btcw6r4C"],
    .steady ⟨"-03", (-10800)⟩⟩,
  ⟨"America/Chicago", [⟨"LMT", (-21036)⟩, ⟨"CDT", (-18000)⟩, ⟨"CST", (-21600)⟩, ⟨"EST", (-18000)⟩,
      ⟨"CWT", (-18000)⟩, ⟨"CPT", (-18000)⟩],
    ["l7h9r4Chxltk0Bast80C7x9g0Bast80Cbvus0B776k0C7kas0Bb5rw0C9d440B7k580Cb5xg0B7x3w0Casys0B",
     "7x3w0Casys0B7x3w0Casys0B7x3w0Casys0B7x3w0Cb5xg0B7x3w0Casys0B7x3w0Casys0B7x3w0Casys0B7x3w0C",
     "asys0B7x3w0Cb5xg0B7k580Cb5xg0B7x3w0Casys0B7x3w0C7x9g0Ddbjw0C8a840B7x3w0Casys0B7x3w0Cb5xg0B",
     "7k580Cb5xg0B7x3w0Casys0B7x3w0C6w840E1tz8c0F2dsw0Casys0B7x3w0Casys0B7x3w0Casys0B7x3w0Casys0B",
     "7x3w0Cb5xg0B7k580Cb5xg0B7x3w0Casys0B7x3w0Casys0B7x3w0Casys0B7x3w0Casys0B9px80C9d440B9cyk0C",
     "9d440B9cyk0C9d440B9cyk0C9d440B9cyk0C9d440B9px80C9d440B9cyk0C9d440B9cyk0C9d440B9cyk0C9d440B",
     "9cyk0C9d440B9px80C905g0B9px80C9d440B9cyk0C9d440B9cyk0C9d440B9cyk0C9d440B9cyk0C9d440B9px80C",
     "9d440B9cyk0C9d440B9cyk0C3lpg0Bf4d80C64g40Bclmk0C9d440B9px80C905g0B9px80C9d440B9cyk0C9d440B",
     "9cyk0C9d440B9cyk0C9d440B9cyk0C9d440B9px80C905g0B9px80C9d440B9cyk0C9d440B9cyk0C9d440B9cyk0C",
     "8a840Bafuk0C8a840Bast80C7x9g0Bast80C7x9g0Bast80C8a840Bafuk0C8a840Bafuk0C8a840Bast80C7x9g0B",
     "ast80C7x9g0Bast80C8a840Bafuk0C8a840Bafuk0C8a840Bafuk0C8a840Bast80C7x9g0Bast80C7x9g0Bast80C",
     "8a840Bafuk0C8a840Bafuk0C8a840Bast80C7x9g0Bast80C7x9g0Bast80C6udg0B"],
    .seasonal ⟨"CST", (-21600)⟩ ⟨"CDT", (-18000)⟩ ⟨3, 2, 0, 7200⟩ ⟨11, 1, 0, 7200⟩⟩,
  ⟨"America/Chihuahua", [⟨"LMT", (-25460)⟩, ⟨"MST", (-25200)⟩, ⟨"CST", (-21600)⟩, ⟨"MDT", (-21600)⟩,
      ⟨"CDT", (-18000)⟩],
    ["153nr74B2u5s00C1si580B8jhg0D7x3w0B9eys0Cxes2s0Eafuk0C8a840Eafuk0C8aaw0Dafuk0B8a840Dast80B",
     "7x9g0Dast80B9q2s0D7k580B9q2s0Dafuk0B8a840Dafuk0B8a840Dast80B7x9g0Dast80B7x9g0Dast80B7x9g0D",
     "ast80B8a840Dafuk0B8a840Dafuk0B8a840Dast80B7x9g0Dast80B7x9g0Dast80B8a840Dafuk0B8a840Dafuk0B",
     "8a840Dafuk0B8a840Dast80B7x9g0Dast80B7x9g0Dast80B8a840Dafuk0B8a840Dafuk0B8a840Dast80B7x9g0D",
     "ast80C"],
    .steady ⟨"CST", (-21600)⟩⟩,
  ⟨"America/Ciudad_Juarez", [⟨"LMT", (-25556)⟩, ⟨"MST", (-25200)⟩, ⟨"CST", (-21600)⟩,
      ⟨"MDT", (-21600)⟩, ⟨"CDT", (-18000)⟩],
    ["153nr74B2u5s00C1si580B8jhg0D7x3w0B9eys0Cxes2s0Eafuk0C8a840Eafuk0C8aaw0Dafuk0B8a840Dast80B",
     "7x9g0Dast80B9q2s0D7k580B9q2s0Dafuk0B8a840Dafuk0B8a840Dast80B7x9g0Dast80B7x9g0Dast80B7x9g0D",
     "ast80B8a840Dafuk0B8a840Dafuk0B77c40Dc8nw0B6hes0Dc8nw0B6hes0Dc8nw0B6hes0Dc8nw0B6hes0Dc8nw0B",
     "6hes0Dc8nw0B6udg0Dc8nw0B6hes0Dc8nw0B6hes0Dc8nw0B6hes0Dc8nw0B6hes0Dc8nw0B6udg0Dc8nw0B6hes0D",
     "bvp80C1l940B"],
    .seasonal ⟨"MST", (-25200)⟩ ⟨"MDT", (-21600)⟩ ⟨3, 2, 0, 7200⟩ ⟨11, 1, 0, 7200⟩⟩,
  ⟨"America/Costa_Rica", [⟨"LMT", (-20173)⟩, ⟨"SJMT", (-20173)⟩, ⟨"CDT", (-18000)⟩,
      ⟨"CST", (-21600)⟩],
    ["oeh1zhBg74lc0Dubtl3nC51ek0Ddoo40C51ek0D5jso40C8drw0Dacas0C2xh80D"],
    .steady ⟨"CST", (-21600)⟩⟩,
  ⟨"America/Coyhaique", [⟨"LMT", (-17296)⟩, ⟨"SMT", (-16965)⟩, ⟨"-05", (-18000)⟩, ⟨"-04", (-14400)⟩,
      ⟨"-03", (-10800)⟩],
    ["oegzrkBag6l2tC3dlssrB157b79Df4e0rB49hzb9Daye0rC7ves0Dawik0C7ves0Dawik0C7ves0Dawik0C7ves0D",
     "ayd80C7ves0D534ik0C351g0D24lbw0Db25c0C2mg00Db73400E7k580Dc8tg0E6h980Da31g0E7x3w0Dasys0E",
     "7x3w0Db5xg0E7k580Dag040E8a2k0Db5xg0E7k580Db5xg0E7x3w0Dasys0E7x3w0Dasys0E7x3w0Db5xg0E7k580D",
     "b5xg0E7k580Db5xg0E7x3w0Dasys0E7x3w0Dasys0E7x3w0Dasys0E7x3w0Db5xg0E7k580Db5xg0E7k580Db5xg0E",
     "9cyk0D9d440E7x3w0Dasys0E7x3w0Db5xg0E7k580D9q2s0E8zzw0Db5xg0E7x3w0Dasys0E7x3w0Dasys0E7x3w0D",
     "asys0E7x3w0Db5xg0E7k580Db5xg0E8n180Da31g0E7x3w0Da31g0E9px80D9q2s0E7x3w0Db5xg0E7k580Db5xg0E",
     "7k580Db5xg0E7k580Db5xg0E7x3w0Dasys0E7x3w0Dasys0E7x3w0Db5xg0E7k580Db5xg0E8n180Da31g0E7x3w0D",
     "asys0E8zzw0D9q2s0East80D5eis0Ecyl80D6hes0Ec8nw0D6udg0Ebvp80D6udg0Evonw0D4olg0Ee1h80D4olg0E",
     "e1h80D4olg0Ec8nw0D7x9g0East80D7x9g0East80D7x9g0East80D8a840Eafuk0D7x9g0Eb5rw0D7x9g0E9xbw0E"],
    .steady ⟨"-03", (-10800)⟩⟩,
  ⟨"America/Cuiaba", [⟨"LMT", (-13460)⟩, ⟨"-03", (-10800)⟩, ⟨"-04", (-14400)⟩],
    ["10xce50C99k9y4B9a9c0C9io40B99980C8p65g0B6zuo0Cbs2o0B67zw0Ccjxg0B69uk0Ccjxg0B4ml80C5mf440B",
     "49mk0Chaas0B316k0Ccls40B4ml80Ccls40B66580Ccls40B67zw0C981s40B6u7w0Cbiw40B5rbw0Cd0lg0B5ed80C",
     "cyqs0B5ed80Cdbpg0B64ak0Ccyqs0B64ak0Ccls40B5rbw0Cdbpg0B51ek0Cdbpg0B6h980Cc8tg0B6h980Cc8tg0B",
     "64ak0Cc8tg0B6u7w0Cbxpg0B7iak0Cbiw40B6u7w0Cbiw40B7k580Cbiw40B6u7w0Cc8tg0B6h980Cdbpg0B5ed80C",
     "w5hg0B5nmk0Cc8tg0B6h980Cdbpg0B5rbw0Cbvus0B6h980Ccls40B64ak0Ccls40B6h980Cc8tg0B6h980Cc8tg0B",
     "6u7w0Cc8tg0B64ak0Ccls40B64ak0Ccls40B6h980Cc8tg0B6h980Cc8tg0B6h980Cc8tg0B6h980Cdbpg0B5ed80C"],
    .steady ⟨"-04", (-14400)⟩⟩,
  ⟨"America/Danmarkshavn", [⟨"LMT", (-4480)⟩, ⟨"-03", (-10800)⟩, ⟨"-02", (-7200)⟩, ⟨"GMT", 0⟩],
    ["129n37kBx8nx3kC8zrk0B9d1c0C9d1c0B9d1c0C9d1c0B9d1c0C9d1c0B9d1c0C9q000B9d1c0C9d1c0B9d1c0C",
     "9d1c0B9d1c0C9d1c0B9d1c0C9d1c0B9d1c0C9d1c0B9d1c0C9q000B9d1c0C9d1c0B9d1c0C9d1c0B9d1c0C9d1c0B",
     "9d1c0C9d1c0B9d1c0C9d1c0B53hk0D"],
    .steady ⟨"GMT", 0⟩⟩,
  ⟨"America/Dawson", [⟨"LMT", (-33460)⟩, ⟨"YDT", (-28800)⟩, ⟨"YST", (-32400)⟩, ⟨"YWT", (-28800)⟩,
      ⟨"YPT", (-28800)⟩, ⟨"YDDT", (-25200)⟩, ⟨"PST", (-28800)⟩, ⟨"PDT", (-25200)⟩,
      ⟨"MST", (-25200)⟩],
    ["ty82wkC97l62kBa2vw0Casys0B882c0Cbmiwc0D1tz000E2e180Ca7n3w0F9q000C465k00G3e2is0H9cyk0G9d440H",
     "9cyk0G9d440H9px80G905g0H9px80G9d440H9cyk0G9d440H9cyk0G9d440H9cyk0G8a840Hafuk0G8a840Hast80G",
     "7x9g0Hast80G7x9g0Hast80G8a840Hafuk0G8a840Hafuk0G8a840Hast80G7x9g0Hast80G7x9g0Hast80G8a840H",
     "afuk0G8a840Hafuk0G8a840Hafuk0G8a840Hast80G7x9g0Hast80G7x9g0Hast80G8a840Hafuk0G8a840Hafuk0G",
     "8a840Hast80G7x9g0Hast80G7x9g0Hast80G6udg0Hc8nw0G6hes0Hc8nw0G6hes0Hc8nw0G6udg0Hc8nw0G6hes0H",
     "c8nw0G6hes0Hc8nw0G6hes0Hc8nw0G6hes0Hc8nw0G6hes0Hc8nw0G6udg0Hc8nw0G6hes0Hc8nw0G6hes0Hc8nw0G",
     "6hes0Hc8nw0G6hes0Hc8ic0I"],
    .steady ⟨"MST", (-25200)⟩⟩,
  ⟨"America/Dawson_Creek", [⟨"LMT", (-28856)⟩, ⟨"PDT", (-25200)⟩, ⟨"PST", (-28800)⟩,
      ⟨"PWT", (-25200)⟩, ⟨"PPT", (-25200)⟩, ⟨"MST", (-25200)⟩],
    ["l9pzcoChw36ugBa2vw0Cc5jxg0D1tz2s0E2dyg0Ctj1g0B7x3w0Casys0B7x3w0Casys0B7x3w0Cb5xg0B7k580C",
     "b5xg0B7x3w0Casys0B7x3w0Casys0B7x3w0Casys0B7x3w0Casys0B7x3w0Cb5xg0B7x3w0Casys0B7x3w0Casys0B",
     "7x3w0Casys0B7x3w0Casys0B7x3w0Cb5xg0B7k580Cb5xg0B9cyk0C9d440B9cyk0C9d440B9cyk0C9d440B9px80C",
     "905g0B9px80C9d440B9cyk0C9d440B9cyk0C9d440B9cyk0C9d440B9cyk0C9d440B9px80C9d440B69uk0F"],
    .steady ⟨"MST", (-25200)⟩⟩,
  ⟨"America/Denver", [⟨"LMT", (-25196)⟩, ⟨"MDT", (-21600)⟩, ⟨"MST", (-25200)⟩, ⟨"MWT", (-21600)⟩,
      ⟨"MPT", (-21600)⟩],
    ["l7hcj4Chxltk0Bast80C7x9g0Bast80C7x9g0Bb5rw0C7kas0B2vmk0Cataw40D1tz5k0E2dvo0Ca7n9g0B9px80C",
     "905g0B9px80C9d440B9cyk0C9d440B9cyk0C9d440B9cyk0C9d440B9cyk0C9d440B9px80C9d440B9cyk0C9d440B",
     "9cyk0C3lpg0Bf4d80C64g40Bclmk0C9d440B9px80C905g0B9px80C9d440B9cyk0C9d440B9cyk0C9d440B9cyk0C",
     "9d440B9cyk0C9d440B9px80C905g0B9px80C9d440B9cyk0C9d440B9cyk0C9d440B9cyk0C8a840Bafuk0C8a840B",
     "ast80C7x9g0Bast80C7x9g0Bast80C8a840Bafuk0C8a840Bafuk0C8a840Bast80C7x9g0Bast80C7x9g0Bast80C",
     "8a840Bafuk0C8a840Bafuk0C8a840Bafuk0C8a840Bast80C7x9g0Bast80C7x9g0Bast80C8a840Bafuk0C8a840B",
     "afuk0C8a840Bast80C7x9g0Bast80C7x9g0Bast80C6udg0B"],
    .seasonal ⟨"MST", (-25200)⟩ ⟨"MDT", (-21600)⟩ ⟨3, 2, 0, 7200⟩ ⟨11, 1, 0, 7200⟩⟩,
  ⟨"America/Detroit", [⟨"LMT", (-19931)⟩, ⟨"CST", (-21600)⟩, ⟨"EST", (-18000)⟩, ⟨"EWT", (-14400)⟩,
      ⟨"EPT", (-14400)⟩, ⟨"EDT", (-14400)⟩],
    ["w89hsrB5eraudCdyeyk0D1tzb40E2dq40C1c9440F7x3w0C9rlbxoF71s2cC9d440F9cyk0C2cmdg0F9cyk0C3lpg0F",
     "f4d80C9d440F9cyk0C9d440F9px80C905g0F9px80C9d440F9cyk0C9d440F9cyk0C9d440F9cyk0C9d440F9cyk0C",
     "9d440F9px80C905g0F9px80C9d440F9cyk0C9d440F9cyk0C9d440F9cyk0C8a840Fafuk0C8a840Fast80C7x9g0F",
     "ast80C7x9g0Fast80C8a840Fafuk0C8a840Fafuk0C8a840Fast80C7x9g0Fast80C7x9g0Fast80C8a840Fafuk0C",
     "8a840Fafuk0C8a840Fafuk0C8a840Fast80C7x9g0Fast80C7x9g0Fast80C8a840Fafuk0C8a840Fafuk0C8a840F",
     "ast80C7x9g0Fast80C7x9g0Fast80C6udg0F"],
    .seasonal ⟨"EST", (-18000)⟩ ⟨"EDT", (-14400)⟩ ⟨3, 2, 0, 7200⟩ ⟨11, 1, 0, 7200⟩⟩,
  ⟨"America/Edmonton", [⟨"LMT", (-27232)⟩, ⟨"MDT", (-21600)⟩, ⟨"MST", (-25200)⟩, ⟨"MWT", (-21600)⟩,
      ⟨"MPT", (-21600)⟩],
    ["x3jkrkC629inkBa2vw0C8n6s0B29ek0Ch6lg0B9px80C905g0B7x3w0Cb5xg0B7k580Cb5xg0B7x3w0C9l0g40D",
     "1tz5k0E2dvo0Ctj1g0B7x3w0Cctzk40B9cyk0C9d440B9cyk0C9d440B9cyk0C9d440B9cyk0C9d440B9px80C",
     "905g0B9px80C9d440B9cyk0C9d440B9cyk0C9d440B9cyk0C9d440B9cyk0C9d440B9px80C905g0B9px80C9d440B",
     "9cyk0C9d440B9cyk0C9d440B9cyk0C8a840Bafuk0C8a840Bast80C7x9g0Bast80C7x9g0Bast80C8a840Bafuk0C",
     "8a840Bafuk0C8a840Bast80C7x9g0Bast80C7x9g0Bast80C8a840Bafuk0C8a840Bafuk0C8a840Bafuk0C8a840B",
     "ast80C7x9g0Bast80C7x9g0Bast80C8a840Bafuk0C8a840Bafuk0C8a840Bast80C7x9g0Bast80C7x9g0Bast80C",
     "6udg0B"],
    .seasonal ⟨"MST", (-25200)⟩ ⟨"MDT", (-21600)⟩ ⟨3, 2, 0, 7200⟩ ⟨11, 1, 0, 7200⟩⟩,
  ⟨"America/Eirunepe", [⟨"LMT", (-16768)⟩, ⟨"-04", (-14400)⟩, ⟨"-05", (-18000)⟩],
    ["10xcgowC99ka68B9a9c0C9io40B99980C8p65g0B6zuo0Cbs2o0B67zw0Ccjxg0B69uk0Ccjxg0B4ml80C5mf440B",
     "49mk0Chaas0B316k0Ccls40B4ml80Ccls40B66580Ccls40B67zw0C981s40B6u7w0Cbiw40B5rbw0Cd0lg0B5ed80C",
     "2yy2s0B6h980C7hg2s0B2t2t80C"],
    .steady ⟨"-05", (-18000)⟩⟩,
  ⟨"America/El_Salvador", [⟨"LMT", (-21408)⟩, ⟨"CDT", (-18000)⟩, ⟨"CST", (-21600)⟩],
    ["14kvqxsCymao5cB7k580Cb5xg0B7k580C"],
    .steady ⟨"CST", (-21600)⟩⟩,
  ⟨"America/Fort_Nelson", [⟨"LMT", (-29447)⟩, ⟨"PDT", (-25200)⟩, ⟨"PST", (-28800)⟩,
      ⟨"PWT", (-25200)⟩, ⟨"PPT", (-25200)⟩, ⟨"MST", (-25200)⟩],
    ["l9pzt3Chw36e1Ba2vw0Cc5jxg0D1tz2s0E2dyg0Ctj1g0B7x3w0Casys0B7x3w0Casys0B7x3w0Cb5xg0B7k580C",
     "b5xg0B7x3w0Casys0B7x3w0Casys0B7x3w0Casys0B7x3w0Casys0B7x3w0Cb5xg0B7x3w0Casys0B7x3w0Casys0B",
     "7x3w0Casys0B7x3w0Casys0B7x3w0Cb5xg0B7k580Cb5xg0B9cyk0C9d440B9cyk0C9d440B9cyk0C9d440B9px80C",
     "905g0B9px80C9d440B9cyk0C9d440B9cyk0C9d440B9cyk0C9d440B9cyk0C9d440B9px80C9d440B9cyk0C9d440B",
     "9cyk0C9d440B9cyk0C9d440B9cyk0C9d440B9px80C905g0B9px80C9d440B9cyk0C9d440B9cyk0C9d440B9cyk0C",
     "9d440B9cyk0C9d440B9px80C905g0B9px80C9d440B9cyk0C9d440B9cyk0C9d440B9cyk0C8a840Bafuk0C8a840B",
     "ast80C7x9g0Bast80C7x9g0Bast80C8a840Bafuk0C8a840Bafuk0C8a840Bast80C7x9g0Bast80C7x9g0Bast80C",
     "8a840Bafuk0C8a840Bafuk0C8a840Bafuk0C8a840Bast80C7x9g0Bast80C7x9g0Bast80C8a840Bafuk0C8a840B",
     "afuk0C8a840Bast80C7x9g0Bast80C7x9g0Bast80C6udg0Bc8nw0C6hes0Bc8nw0C6hes0Bc8nw0C6udg0Bc8nw0C",
     "6hes0Bc8nw0C6hes0Bc8nw0C6hes0Bc8nw0C6hes0Bc8nw0C6hes0F"],
    .steady ⟨"MST", (-25200)⟩⟩,
  ⟨"America/Fortaleza", [⟨"LMT", (-9240)⟩, ⟨"-02", (-7200)⟩, ⟨"-03", (-10800)⟩],
    ["10xcavsC99kafcB9a9c0C9io40B99980C8p65g0B6zuo0Cbs2o0B67zw0Ccjxg0B69uk0Ccjxg0B4ml80C5mf440B",
     "49mk0Chaas0B316k0Ccls40B4ml80Ccls40B66580Ccls40B67zw0C981s40B6u7w0Cbiw40B5rbw0Cd0lg0B5ed80C",
     "cyqs0B5ed80Cdbpg0B64ak0C514g40B7k580Cbiw40Bpuk0Cid6s0B6h980C"],
    .steady ⟨"-03", (-10800)⟩⟩,
  ⟨"America/Glace_Bay", [⟨"LMT", (-14388)⟩, ⟨"ADT", (-10800)⟩, ⟨"AST", (-14400)⟩, ⟨"AWT", (-10800)⟩,
      ⟨"APT", (-10800)⟩],
    ["uwdausC89fk8cBa2vw0Cc5jxg0D1tzdw0E2dnc0C3y8g40B7x3w0C9pa5g0B9cyk0C9d440B9cyk0C9d440B9cyk0C",
     "9d440B9cyk0C9d440B9px80C905g0B9px80C9d440B9cyk0C9d440B9cyk0C9d440B9cyk0C9d440B9cyk0C9d440B",
     "9px80C905g0B9px80C9d440B9cyk0C9d440B9cyk0C9d440B9cyk0C8a840Bafuk0C8a840Bast80C7x9g0Bast80C",
     "7x9g0Bast80C8a840Bafuk0C8a840Bafuk0C8a840Bast80C7x9g0Bast80C7x9g0Bast80C8a840Bafuk0C8a840B",
     "afuk0C8a840Bafuk0C8a840Bast80C7x9g0Bast80C7x9g0Bast80C8a840Bafuk0C8a840Bafuk0C8a840Bast80C",
     "7x9g0Bast80C7x9g0Bast80C6udg0B"],
    .seasonal ⟨"AST", (-14400)⟩ ⟨"ADT", (-10800)⟩ ⟨3, 2, 0, 7200⟩ ⟨11, 1, 0, 7200⟩⟩,
  ⟨"America/Goose_Bay", [⟨"LMT", (-14500)⟩, ⟨"NST", (-12652)⟩, ⟨"NDT", (-9052)⟩, ⟨"NST", (-12600)⟩,
      ⟨"NDT", (-9000)⟩, ⟨"NPT", (-9000)⟩, ⟨"NWT", (-9000)⟩, ⟨"ADT", (-10800)⟩, ⟨"AST", (-14400)⟩,
      ⟨"ADDT", (-7200)⟩],
    ["l9po9wBhw35goCa2vw0B8kjbw0DkzjykE7k580Db5xg0E7k580Db5xg0E7k580Dbiw40E776k0Dbiw40E7k580D",
     "b5xg0E7k580Db5xg0G1pb260F2dly0Dbiw40E7k580Db5xg0E7k580Db5xg0E7k580Db5xg0E7k580Dbiw40E7k580D",
     "ag040E7x3w0Dasys0E7x3w0Dasys0E7x3w0Dasys0E7x3w0Dasys0E7x3w0Db5xg0E7x3w0Dasys0E7x3w0Dasys0E",
     "7x3w0Dasys0E7x3w0Dasys0E9px80D9d440E9cyk0D9d440E9cyk0D9d440E9cyk0D9d440E9cyk0D9d440E9px80D",
     "6y2s0I22420H9px80I9d440H9cyk0I9d440H9cyk0I9d440H9cyk0I9d440H9cyk0I9d440H9px80I9d440H9cyk0I",
     "9d440H9cyk0I9d440H9cyk0I9d440H9cyk0I9d440H9px80I905g0H9px80I9d440H9cyk0I9d440H9cyk0I9d440H",
     "9cyk0I9d440H9cyk0I9d440H9px80I905g0H9px80I9d440H9cyk0I9d440H9cyk0I9d440H9cyk0I8a2loHafuk0I",
     "8a840Jasqg0I7xc80Hast80I7x9g0Hast80I8a840Hafuk0I8a840Hafuk0I8a840Hast80I7x9g0Hast80I7x9g0H",
     "ast80I8a840Hafuk0I8a840Hafuk0I8a840Hafuk0I8a840Hast80I7x9g0Hast80I7x9g0Hast80I8a840Hafuk0I",
     "8a840Hafuk0I8a840Hast80I7x9g0Hast80I7x9g0Hast80I6udg0Hc8nw0I6hes0Hc8nw0I6hes0Hc8nw0I6udg0H",
     "c8nw0I6hes0Hc8tecI"],
    .seasonal ⟨"AST", (-14400)⟩ ⟨"ADT", (-10800)⟩ ⟨3, 2, 0, 7200⟩ ⟨11, 1, 0, 7200⟩⟩,
  ⟨"America/Grand_Turk", [⟨"LMT", (-17072)⟩, ⟨"KMT", (-18430)⟩, ⟨"EST", (-18000)⟩,
      ⟨"EDT", (-14400)⟩, ⟨"AST", (-14400)⟩],
    ["oegzlcBbiv7pqCz3brw2D9cyk0C9d440D9cyk0C9d440D9cyk0C9d440D9px80C905g0D9px80C9d440D9cyk0C",
     "9d440D9cyk0C9d440D9cyk0C8a840Dafuk0C8a840Dast80C7x9g0Dast80C7x9g0Dast80C8a840Dafuk0C8a840D",
     "afuk0C8a840Dast80C7x9g0Dast80C7x9g0Dast80C8a840Dafuk0C8a840Dafuk0C8a840Dafuk0C8a840Dast80C",
     "7x9g0Dast80C7x9g0Dast80C8a840Dafuk0C8a840Dafuk0C8a840Dast80C7x9g0Dast80C7x9g0Dast80C6udg0D",
     "c8nw0C6hes0Dc8nw0C6hes0Dc8nw0C6udg0Dc8nw0C6hes0Dc8nw0C6hes0Dc8nw0C6hes0Dc8nw0C6hes0Dc8nw0C",
     "6hes0E1kj6o0D"],
    .seasonal ⟨"EST", (-18000)⟩ ⟨"EDT", (-14400)⟩ ⟨3, 2, 0, 7200⟩ ⟨11, 1, 0, 7200⟩⟩,
  ⟨"America/Guatemala", [⟨"LMT", (-21724)⟩, ⟨"CDT", (-18000)⟩, ⟨"CST", (-21600)⟩],
    ["13er36kCss0akkB4ofw0C4tidg0B6djw0C3wwas0B8n180C7n5ms0B7x3w0C"],
    .steady ⟨"CST", (-21600)⟩⟩,
  ⟨"America/Guayaquil", [⟨"LMT", (-19160)⟩, ⟨"QMT", (-18840)⟩, ⟨"-04", (-14400)⟩,
      ⟨"-05", (-18000)⟩],
    ["oeh17cBle9mf4Dwb620oC3jp80D"],
    .steady ⟨"-05", (-18000)⟩⟩,
  ⟨"America/Guyana", [⟨"LMT", (-13959)⟩, ⟨"-04", (-14400)⟩, ⟨"-0345", (-13500)⟩, ⟨"-03", (-10800)⟩],
    ["znvd6vB1va8c9Cvj6nb0D8p0jd0B"],
    .steady ⟨"-04", (-14400)⟩⟩]

end Worksheet.Zones
