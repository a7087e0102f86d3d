/-
# Compatibility characters

Some characters are kept only for the sake of older sets: ligatures, letters in other widths or
faces, ideographs with two codes.  Each has a normal form in other characters.  The table holds
those that identifiers are made of.
-/
import Blueprint.Entries
import Blueprint.Text.Basic

namespace Blueprint.Text

/-- The characters of two in a row. -/
def couples : List Char → List (Char × Char)
  | a :: b :: rest => (a, b) :: couples rest
  | _ => []

/-- Ranges of characters with the characters in their places: the ends of the range and the first
character in place. -/
def replacementRanges : List (Nat × Nat × Nat) := [
  (0x1d33, 0x1d3a, 0x47), (0x1d5d, 0x1d5f, 0x3b2), (0x1da4, 0x1da6, 0x268),
  (0x1dae, 0x1db1, 0x272), (0x1dbc, 0x1dbe, 0x290), (0x2096, 0x2099, 0x6b), (0x2119, 0x211b, 0x50),
  (0x2135, 0x2138, 0x5d0), (0x3137, 0x3139, 0x1103), (0x313a, 0x313f, 0x11b0),
  (0x3141, 0x3143, 0x1106), (0x3145, 0x314e, 0x1109), (0x314f, 0x3163, 0x1161),
  (0x3178, 0x317c, 0x112b), (0x3184, 0x3186, 0x1157), (0xfb24, 0xfb26, 0x5db),
  (0xff10, 0xff19, 0x30), (0xff21, 0xff3a, 0x41), (0xff41, 0xff5a, 0x61), (0xff85, 0xff8a, 0x30ca),
  (0xff8f, 0xff93, 0x30de), (0xff96, 0xff9b, 0x30e8), (0xffa7, 0xffa9, 0x1103),
  (0xffaa, 0xffaf, 0x11b0), (0xffb1, 0xffb3, 0x1106), (0xffb5, 0xffbe, 0x1109),
  (0xffc2, 0xffc7, 0x1161), (0xffca, 0xffcf, 0x1167), (0xffd2, 0xffd7, 0x116d),
  (0xffda, 0xffdc, 0x1173), (0x107b6, 0x107b8, 0x1c0), (0x1d400, 0x1d419, 0x41),
  (0x1d41a, 0x1d433, 0x61), (0x1d434, 0x1d44d, 0x41), (0x1d44e, 0x1d454, 0x61),
  (0x1d456, 0x1d467, 0x69), (0x1d468, 0x1d481, 0x41), (0x1d482, 0x1d49b, 0x61),
  (0x1d4a9, 0x1d4ac, 0x4e), (0x1d4ae, 0x1d4b5, 0x53), (0x1d4b6, 0x1d4b9, 0x61),
  (0x1d4bd, 0x1d4c3, 0x68), (0x1d4c5, 0x1d4cf, 0x70), (0x1d4d0, 0x1d4e9, 0x41),
  (0x1d4ea, 0x1d503, 0x61), (0x1d507, 0x1d50a, 0x44), (0x1d50d, 0x1d514, 0x4a),
  (0x1d516, 0x1d51c, 0x53), (0x1d51e, 0x1d537, 0x61), (0x1d53b, 0x1d53e, 0x44),
  (0x1d540, 0x1d544, 0x49), (0x1d54a, 0x1d550, 0x53), (0x1d552, 0x1d56b, 0x61),
  (0x1d56c, 0x1d585, 0x41), (0x1d586, 0x1d59f, 0x61), (0x1d5a0, 0x1d5b9, 0x41),
  (0x1d5ba, 0x1d5d3, 0x61), (0x1d5d4, 0x1d5ed, 0x41), (0x1d5ee, 0x1d607, 0x61),
  (0x1d608, 0x1d621, 0x41), (0x1d622, 0x1d63b, 0x61), (0x1d63c, 0x1d655, 0x41),
  (0x1d656, 0x1d66f, 0x61), (0x1d670, 0x1d689, 0x41), (0x1d68a, 0x1d6a3, 0x61),
  (0x1d6a8, 0x1d6b8, 0x391), (0x1d6ba, 0x1d6c0, 0x3a3), (0x1d6c2, 0x1d6da, 0x3b1),
  (0x1d6e2, 0x1d6f2, 0x391), (0x1d6f4, 0x1d6fa, 0x3a3), (0x1d6fc, 0x1d714, 0x3b1),
  (0x1d71c, 0x1d72c, 0x391), (0x1d72e, 0x1d734, 0x3a3), (0x1d736, 0x1d74e, 0x3b1),
  (0x1d756, 0x1d766, 0x391), (0x1d768, 0x1d76e, 0x3a3), (0x1d770, 0x1d788, 0x3b1),
  (0x1d790, 0x1d7a0, 0x391), (0x1d7a2, 0x1d7a8, 0x3a3), (0x1d7aa, 0x1d7c2, 0x3b1),
  (0x1d7ce, 0x1d7d7, 0x30), (0x1d7d8, 0x1d7e1, 0x30), (0x1d7e2, 0x1d7eb, 0x30),
  (0x1d7ec, 0x1d7f5, 0x30), (0x1d7f6, 0x1d7ff, 0x30), (0x1ee0a, 0x1ee0d, 0x643),
  (0x1ee2a, 0x1ee2d, 0x643), (0x1ee8b, 0x1ee8d, 0x644), (0x1eeab, 0x1eead, 0x644),
  (0x1fbf0, 0x1fbf9, 0x30)]

/-- Characters with the one in the place of each. -/
def replacementTable : List (Char × Char) :=
  couples <| List.flatMap String.toList
    ["ªaµμºoſsʰhʱɦʲjʳrʴɹʵɻʶʁʷwʸyˠɣˡlˢsˣxˤʕ\u0340\u0300\u0341\u0301\u0343\u0313\u0374ʹ\u0387·ϐβ",
     "ϑθϒΥϓΎϔΫϕφϖπϰκϱρϲςϴΘϵεϹΣჼნᴬAᴭÆᴮBᴰDᴱEᴲƎᴼOᴽȢᴾPᴿRᵀTᵁUᵂWᵃaᵄɐᵅɑᵆᴂᵇbᵈdᵉeᵊəᵋɛᵌɜᵍgᵏkᵐmᵑŋᵒoᵓɔᵔᴖᵕᴗ",
     "ᵖpᵗtᵘuᵙᴝᵚɯᵛvᵜᴥᵠφᵡχᵢiᵣrᵤuᵥvᵦβᵧγᵨρᵩφᵪχᵸнᶛɒᶜcᶝɕᶞðᶟɜᶠfᶡɟᶢɡᶣɥᶧᵻᶨʝᶩɭᶪᶅᶫʟᶬɱᶭɰᶲɸᶳʂᶴʃᶵƫᶶʉᶷʊᶸᴜᶹʋᶺʌ",
     "ᶻzᶿθẛṡ\u1f71ά\u1f73έ\u1f75ή\u1f77ί\u1f79ό\u1f7bύ\u1f7dώ\u1fbbΆ\u1fbeι\u1fc9Έ\u1fcbΉ",
     "\u1fd3ΐ\u1fdbΊ\u1fe3ΰ\u1febΎ\u1ff9Ό\u1ffbΏⁱiⁿnₐaₑeₒoₓxₔəₕhₚpₛsₜtℂCℇƐℊgℋHℌHℍHℎhℏħℐIℑIℒLℓl",
     "ℕNℜRℝRℤZ\u2126ΩℨZ\u212aK\u212bÅℬBℭCℯeℰEℱFℳMℴoℹiℼπℽγℾΓℿΠⅅDⅆdⅇeⅈiⅉjⅠIⅤVⅩXⅬLⅭCⅮDⅯMⅰiⅴvⅹxⅼlⅽc",
     "ⅾdⅿmⱼjⱽVⵯⵡ〸十〹卄〺卅ㄱᄀㄲᄁㄳᆪㄴᄂㄵᆬㄶᆭㅀᄚㅄᄡㅤᅠㅥᄔㅦᄕㅧᇇㅨᇈㅩᇌㅪᇎㅫᇓㅬᇗㅭᇙㅮᄜㅯᇝㅰᇟㅱᄝㅲᄞㅳᄠㅴᄢㅵᄣㅶᄧㅷᄩㅽᄲㅾᄶㅿᅀㆀᅇㆁᅌㆂᇱㆃᇲㆇᆄ",
     "ㆈᆅㆉᆈㆊᆑㆋᆒㆌᆔㆍᆞㆎᆡꚜъꚝьꝰꝯꟲCꟳFꟴQꟸĦꟹœꭜꜧꭝꬷꭞɫꭟꭒꭩʍ\uf900豈\uf901更\uf902車\uf903賈\uf904滑\uf905串\uf906句",
     "\uf907龜\uf908龜\uf909契\uf90a金\uf90b喇\uf90c奈\uf90d懶\uf90e癩\uf90f羅\uf910蘿\uf911螺\uf912裸",
     "\uf913邏\uf914樂\uf915洛\uf916烙\uf917珞\uf918落\uf919酪\uf91a駱\uf91b亂\uf91c卵\uf91d欄\uf91e爛",
     "\uf91f蘭\uf920鸞\uf921嵐\uf922濫\uf923藍\uf924襤\uf925拉\uf926臘\uf927蠟\uf928廊\uf929朗\uf92a浪",
     "\uf92b狼\uf92c郎\uf92d來\uf92e冷\uf92f勞\uf930擄\uf931櫓\uf932爐\uf933盧\uf934老\uf935蘆\uf936虜",
     "\uf937路\uf938露\uf939魯\uf93a鷺\uf93b碌\uf93c祿\uf93d綠\uf93e菉\uf93f錄\uf940鹿\uf941論\uf942壟",
     "\uf943弄\uf944籠\uf945聾\uf946牢\uf947磊\uf948賂\uf949雷\uf94a壘\uf94b屢\uf94c樓\uf94d淚\uf94e漏",
     "\uf94f累\uf950縷\uf951陋\uf952勒\uf953肋\uf954凜\uf955凌\uf956稜\uf957綾\uf958菱\uf959陵\uf95a讀",
     "\uf95b拏\uf95c樂\uf95d諾\uf95e丹\uf95f寧\uf960怒\uf961率\uf962異\uf963北\uf964磻\uf965便\uf966復",
     "\uf967不\uf968泌\uf969數\uf96a索\uf96b參\uf96c塞\uf96d省\uf96e葉\uf96f說\uf970殺\uf971辰\uf972沈",
     "\uf973拾\uf974若\uf975掠\uf976略\uf977亮\uf978兩\uf979凉\uf97a梁\uf97b糧\uf97c良\uf97d諒\uf97e量",
     "\uf97f勵\uf980呂\uf981女\uf982廬\uf983旅\uf984濾\uf985礪\uf986閭\uf987驪\uf988麗\uf989黎\uf98a力",
     "\uf98b曆\uf98c歷\uf98d轢\uf98e年\uf98f憐\uf990戀\uf991撚\uf992漣\uf993煉\uf994璉\uf995秊\uf996練",
     "\uf997聯\uf998輦\uf999蓮\uf99a連\uf99b鍊\uf99c列\uf99d劣\uf99e咽\uf99f烈\uf9a0裂\uf9a1說\uf9a2廉",
     "\uf9a3念\uf9a4捻\uf9a5殮\uf9a6簾\uf9a7獵\uf9a8令\uf9a9囹\uf9aa寧\uf9ab嶺\uf9ac怜\uf9ad玲\uf9ae瑩",
     "\uf9af羚\uf9b0聆\uf9b1鈴\uf9b2零\uf9b3靈\uf9b4領\uf9b5例\uf9b6禮\uf9b7醴\uf9b8隸\uf9b9惡\uf9ba了",
     "\uf9bb僚\uf9bc寮\uf9bd尿\uf9be料\uf9bf樂\uf9c0燎\uf9c1療\uf9c2蓼\uf9c3遼\uf9c4龍\uf9c5暈\uf9c6阮",
     "\uf9c7劉\uf9c8杻\uf9c9柳\uf9ca流\uf9cb溜\uf9cc琉\uf9cd留\uf9ce硫\uf9cf紐\uf9d0類\uf9d1六\uf9d2戮",
     "\uf9d3陸\uf9d4倫\uf9d5崙\uf9d6淪\uf9d7輪\uf9d8律\uf9d9慄\uf9da栗\uf9db率\uf9dc隆\uf9dd利\uf9de吏",
     "\uf9df履\uf9e0易\uf9e1李\uf9e2梨\uf9e3泥\uf9e4理\uf9e5痢\uf9e6罹\uf9e7裏\uf9e8裡\uf9e9里\uf9ea離",
     "\uf9eb匿\uf9ec溺\uf9ed吝\uf9ee燐\uf9ef璘\uf9f0藺\uf9f1隣\uf9f2鱗\uf9f3麟\uf9f4林\uf9f5淋\uf9f6臨",
     "\uf9f7立\uf9f8笠\uf9f9粒\uf9fa狀\uf9fb炙\uf9fc識\uf9fd什\uf9fe茶\uf9ff刺\ufa00切\ufa01度\ufa02拓",
     "\ufa03糖\ufa04宅\ufa05洞\ufa06暴\ufa07輻\ufa08行\ufa09降\ufa0a見\ufa0b廓\ufa0c兀\ufa0d嗀\ufa10塚",
     "\ufa12晴\ufa15凞\ufa16猪\ufa17益\ufa18礼\ufa19神\ufa1a祥\ufa1b福\ufa1c靖\ufa1d精\ufa1e羽\ufa20蘒",
     "\ufa22諸\ufa25逸\ufa26都\ufa2a飯\ufa2b飼\ufa2c館\ufa2d鶴\ufa2e郞\ufa2f隷\ufa30侮\ufa31僧\ufa32免",
     "\ufa33勉\ufa34勤\ufa35卑\ufa36喝\ufa37嘆\ufa38器\ufa39塀\ufa3a墨\ufa3b層\ufa3c屮\ufa3d悔\ufa3e慨",
     "\ufa3f憎\ufa40懲\ufa41敏\ufa42既\ufa43暑\ufa44梅\ufa45海\ufa46渚\ufa47漢\ufa48煮\ufa49爫\ufa4a琢",
     "\ufa4b碑\ufa4c社\ufa4d祉\ufa4e祈\ufa4f祐\ufa50祖\ufa51祝\ufa52禍\ufa53禎\ufa54穀\ufa55突\ufa56節",
     "\ufa57練\ufa58縉\ufa59繁\ufa5a署\ufa5b者\ufa5c臭\ufa5d艹\ufa5e艹\ufa5f著\ufa60褐\ufa61視\ufa62謁",
     "\ufa63謹\ufa64賓\ufa65贈\ufa66辶\ufa67逸\ufa68難\ufa69響\ufa6a頻\ufa6b恵\ufa6c𤋮\ufa6d舘\ufa70並",
     "\ufa71况\ufa72全\ufa73侀\ufa74充\ufa75冀\ufa76勇\ufa77勺\ufa78喝\ufa79啕\ufa7a喙\ufa7b嗢\ufa7c塚",
     "\ufa7d墳\ufa7e奄\ufa7f奔\ufa80婢\ufa81嬨\ufa82廒\ufa83廙\ufa84彩\ufa85徭\ufa86惘\ufa87慎\ufa88愈",
     "\ufa89憎\ufa8a慠\ufa8b懲\ufa8c戴\ufa8d揄\ufa8e搜\ufa8f摒\ufa90敖\ufa91晴\ufa92朗\ufa93望\ufa94杖",
     "\ufa95歹\ufa96殺\ufa97流\ufa98滛\ufa99滋\ufa9a漢\ufa9b瀞\ufa9c煮\ufa9d瞧\ufa9e爵\ufa9f犯\ufaa0猪",
     "\ufaa1瑱\ufaa2甆\ufaa3画\ufaa4瘝\ufaa5瘟\ufaa6益\ufaa7盛\ufaa8直\ufaa9睊\ufaaa着\ufaab磌\ufaac窱",
     "\ufaad節\ufaae类\ufaaf絛\ufab0練\ufab1缾\ufab2者\ufab3荒\ufab4華\ufab5蝹\ufab6襁\ufab7覆\ufab8視",
     "\ufab9調\ufaba諸\ufabb請\ufabc謁\ufabd諾\ufabe諭\ufabf謹\ufac0變\ufac1贈\ufac2輸\ufac3遲\ufac4醙",
     "\ufac5鉶\ufac6陼\ufac7難\ufac8靖\ufac9韛\ufaca響\ufacb頋\ufacc頻\ufacd鬒\uface龜\ufacf𢡊\ufad0𢡄",
     "\ufad1𣏕\ufad2㮝\ufad3䀘\ufad4䀹\ufad5𥉉\ufad6𥳐\ufad7𧻓\ufad8齃\ufad9龎\ufb20\u05e2\ufb21\u05d0",
     "\ufb22\u05d3\ufb23\u05d4\ufb27\u05e8\ufb28\u05ea\ufb50\u0671\ufb51\u0671\ufb52\u067b",
     "\ufb53\u067b\ufb54\u067b\ufb55\u067b\ufb56\u067e\ufb57\u067e\ufb58\u067e\ufb59\u067e",
     "\ufb5a\u0680\ufb5b\u0680\ufb5c\u0680\ufb5d\u0680\ufb5e\u067a\ufb5f\u067a\ufb60\u067a",
     "\ufb61\u067a\ufb62\u067f\ufb63\u067f\ufb64\u067f\ufb65\u067f\ufb66\u0679\ufb67\u0679",
     "\ufb68\u0679\ufb69\u0679\ufb6a\u06a4\ufb6b\u06a4\ufb6c\u06a4\ufb6d\u06a4\ufb6e\u06a6",
     "\ufb6f\u06a6\ufb70\u06a6\ufb71\u06a6\ufb72\u0684\ufb73\u0684\ufb74\u0684\ufb75\u0684",
     "\ufb76\u0683\ufb77\u0683\ufb78\u0683\ufb79\u0683\ufb7a\u0686\ufb7b\u0686\ufb7c\u0686",
     "\ufb7d\u0686\ufb7e\u0687\ufb7f\u0687\ufb80\u0687\ufb81\u0687\ufb82\u068d\ufb83\u068d",
     "\ufb84\u068c\ufb85\u068c\ufb86\u068e\ufb87\u068e\ufb88\u0688\ufb89\u0688\ufb8a\u0698",
     "\ufb8b\u0698\ufb8c\u0691\ufb8d\u0691\ufb8e\u06a9\ufb8f\u06a9\ufb90\u06a9\ufb91\u06a9",
     "\ufb92\u06af\ufb93\u06af\ufb94\u06af\ufb95\u06af\ufb96\u06b3\ufb97\u06b3\ufb98\u06b3",
     "\ufb99\u06b3\ufb9a\u06b1\ufb9b\u06b1\ufb9c\u06b1\ufb9d\u06b1\ufb9e\u06ba\ufb9f\u06ba",
     "\ufba0\u06bb\ufba1\u06bb\ufba2\u06bb\ufba3\u06bb\ufba4\u06c0\ufba5\u06c0\ufba6\u06c1",
     "\ufba7\u06c1\ufba8\u06c1\ufba9\u06c1\ufbaa\u06be\ufbab\u06be\ufbac\u06be\ufbad\u06be",
     "\ufbae\u06d2\ufbaf\u06d2\ufbb0\u06d3\ufbb1\u06d3\ufbd3\u06ad\ufbd4\u06ad\ufbd5\u06ad",
     "\ufbd6\u06ad\ufbd7\u06c7\ufbd8\u06c7\ufbd9\u06c6\ufbda\u06c6\ufbdb\u06c8\ufbdc\u06c8",
     "\ufbde\u06cb\ufbdf\u06cb\ufbe0\u06c5\ufbe1\u06c5\ufbe2\u06c9\ufbe3\u06c9\ufbe4\u06d0",
     "\ufbe5\u06d0\ufbe6\u06d0\ufbe7\u06d0\ufbe8\u0649\ufbe9\u0649\ufbfc\u06cc\ufbfd\u06cc",
     "\ufbfe\u06cc\ufbff\u06cc︳_︴_﹍_﹎_﹏_\ufe80\u0621\ufe81\u0622\ufe82\u0622\ufe83\u0623",
     "\ufe84\u0623\ufe85\u0624\ufe86\u0624\ufe87\u0625\ufe88\u0625\ufe89\u0626\ufe8a\u0626",
     "\ufe8b\u0626\ufe8c\u0626\ufe8d\u0627\ufe8e\u0627\ufe8f\u0628\ufe90\u0628\ufe91\u0628",
     "\ufe92\u0628\ufe93\u0629\ufe94\u0629\ufe95\u062a\ufe96\u062a\ufe97\u062a\ufe98\u062a",
     "\ufe99\u062b\ufe9a\u062b\ufe9b\u062b\ufe9c\u062b\ufe9d\u062c\ufe9e\u062c\ufe9f\u062c",
     "\ufea0\u062c\ufea1\u062d\ufea2\u062d\ufea3\u062d\ufea4\u062d\ufea5\u062e\ufea6\u062e",
     "\ufea7\u062e\ufea8\u062e\ufea9\u062f\ufeaa\u062f\ufeab\u0630\ufeac\u0630\ufead\u0631",
     "\ufeae\u0631\ufeaf\u0632\ufeb0\u0632\ufeb1\u0633\ufeb2\u0633\ufeb3\u0633\ufeb4\u0633",
     "\ufeb5\u0634\ufeb6\u0634\ufeb7\u0634\ufeb8\u0634\ufeb9\u0635\ufeba\u0635\ufebb\u0635",
     "\ufebc\u0635\ufebd\u0636\ufebe\u0636\ufebf\u0636\ufec0\u0636\ufec1\u0637\ufec2\u0637",
     "\ufec3\u0637\ufec4\u0637\ufec5\u0638\ufec6\u0638\ufec7\u0638\ufec8\u0638\ufec9\u0639",
     "\ufeca\u0639\ufecb\u0639\ufecc\u0639\ufecd\u063a\ufece\u063a\ufecf\u063a\ufed0\u063a",
     "\ufed1\u0641\ufed2\u0641\ufed3\u0641\ufed4\u0641\ufed5\u0642\ufed6\u0642\ufed7\u0642",
     "\ufed8\u0642\ufed9\u0643\ufeda\u0643\ufedb\u0643\ufedc\u0643\ufedd\u0644\ufede\u0644",
     "\ufedf\u0644\ufee0\u0644\ufee1\u0645\ufee2\u0645\ufee3\u0645\ufee4\u0645\ufee5\u0646",
     "\ufee6\u0646\ufee7\u0646\ufee8\u0646\ufee9\u0647\ufeea\u0647\ufeeb\u0647\ufeec\u0647",
     "\ufeed\u0648\ufeee\u0648\ufeef\u0649\ufef0\u0649\ufef1\u064a\ufef2\u064a\ufef3\u064a",
     "\ufef4\u064a＿_ｦヲｧァｨィｩゥｪェｫォｬャｭュｮョｯッｰーｱアｲイｳウｴエｵオｶカｷキｸクｹケｺコｻサｼシｽスｾセｿソﾀタﾁチﾂツﾃテﾄトﾋヒﾌフﾍヘﾎホﾔヤﾕユ",
     "ﾜワﾝンﾞ\u3099ﾟ\u309aﾠᅠﾡᄀﾢᄁﾣᆪﾤᄂﾥᆬﾦᆭﾰᄚﾴᄡ𐞁ː𐞂ˑ𐞃æ𐞄ʙ𐞅ɓ𐞇ʣ𐞈ꭦ𐞉ʥ𐞊ʤ𐞋ɖ𐞌ɗ𐞍ᶑ𐞎ɘ𐞏ɞ𐞐ʩ𐞑ɤ𐞒ɢ𐞓ɠ𐞔ʛ𐞕ħ𐞖ʜ𐞗ɧ𐞘ʄ𐞙ʪ𐞚ʫ𐞛ɬ",
     "𐞜𝼄𐞝ꞎ𐞞ɮ𐞟𝼅𐞠ʎ𐞡𝼆𐞢ø𐞣ɶ𐞤ɷ𐞥q𐞦ɺ𐞧𝼈𐞨ɽ𐞩ɾ𐞪ʀ𐞫ʨ𐞬ʦ𐞭ꭧ𐞮ʧ𐞯ʈ𐞰ⱱ𐞲ʏ𐞳ʡ𐞴ʢ𐞵ʘ𐞹𝼊𐞺𝼞𝒜A𝒞C𝒟D𝒢G𝒥J𝒦K𝒻f𝔄A𝔅B𝔸A𝔹B𝕆O𝚤ı𝚥ȷ𝚹Θ𝛜ε𝛝θ",
     "𝛞κ𝛟φ𝛠ρ𝛡π𝛳Θ𝜖ε𝜗θ𝜘κ𝜙φ𝜚ρ𝜛π𝜭Θ𝝐ε𝝑θ𝝒κ𝝓φ𝝔ρ𝝕π𝝧Θ𝞊ε𝞋θ𝞌κ𝞍φ𝞎ρ𝞏π𝞡Θ𝟄ε𝟅θ𝟆κ𝟇φ𝟈ρ𝟉π𝟊Ϝ𝟋ϝ𞸀\u0627𞸁\u0628𞸂\u062c",
     "𞸃\u062f𞸅\u0648𞸆\u0632𞸇\u062d𞸈\u0637𞸉\u064a𞸎\u0633𞸏\u0639𞸐\u0641𞸑\u0635𞸒\u0642𞸓\u0631",
     "𞸔\u0634𞸕\u062a𞸖\u062b𞸗\u062e𞸘\u0630𞸙\u0636𞸚\u0638𞸛\u063a𞸜\u066e𞸝\u06ba𞸞\u06a1𞸟\u066f",
     "𞸡\u0628𞸢\u062c𞸤\u0647𞸧\u062d𞸩\u064a𞸮\u0633𞸯\u0639𞸰\u0641𞸱\u0635𞸲\u0642𞸴\u0634𞸵\u062a",
     "𞸶\u062b𞸷\u062e𞸹\u0636𞸻\u063a𞹂\u062c𞹇\u062d𞹉\u064a𞹋\u0644𞹍\u0646𞹎\u0633𞹏\u0639𞹑\u0635",
     "𞹒\u0642𞹔\u0634𞹗\u062e𞹙\u0636𞹛\u063a𞹝\u06ba𞹟\u066f𞹡\u0628𞹢\u062c𞹤\u0647𞹧\u062d𞹨\u0637",
     "𞹩\u064a𞹪\u0643𞹬\u0645𞹭\u0646𞹮\u0633𞹯\u0639𞹰\u0641𞹱\u0635𞹲\u0642𞹴\u0634𞹵\u062a𞹶\u062b",
     "𞹷\u062e𞹹\u0636𞹺\u0638𞹻\u063a𞹼\u066e𞹾\u06a1𞺀\u0627𞺁\u0628𞺂\u062c𞺃\u062f𞺄\u0647𞺅\u0648",
     "𞺆\u0632𞺇\u062d𞺈\u0637𞺉\u064a𞺎\u0633𞺏\u0639𞺐\u0641𞺑\u0635𞺒\u0642𞺓\u0631𞺔\u0634𞺕\u062a",
     "𞺖\u062b𞺗\u062e𞺘\u0630𞺙\u0636𞺚\u0638𞺛\u063a𞺡\u0628𞺢\u062c𞺣\u062f𞺥\u0648𞺦\u0632𞺧\u062d",
     "𞺨\u0637𞺩\u064a𞺮\u0633𞺯\u0639𞺰\u0641𞺱\u0635𞺲\u0642𞺳\u0631𞺴\u0634𞺵\u062a𞺶\u062b𞺷\u062e",
     "𞺸\u0630𞺹\u0636𞺺\u0638𞺻\u063a丽丽丸丸乁乁𠄢𠄢你你侮侮侻侻倂倂偺偺備備僧僧像像㒞㒞𠘺𠘺免免兔兔兤兤具具𠔜𠔜㒹㒹內內再再𠕋𠕋冗冗冤冤仌仌冬冬况况𩇟𩇟凵凵",
     "刃刃㓟㓟刻刻剆剆割割剷剷㔕㔕勇勇勉勉勤勤勺勺包包匆匆北北卉卉卑卑博博即即卽卽卿卿卿卿卿卿𠨬𠨬灰灰及及叟叟𠭣𠭣叫叫叱叱吆吆咞咞吸吸呈呈周周咢咢哶哶唐唐啓啓啣啣善善善善喙喙喫喫喳喳",
     "嗂嗂圖圖嘆嘆圗圗噑噑噴噴切切壮壮城城埴埴堍堍型型堲堲報報墬墬𡓤𡓤売売壷壷夆夆多多夢夢奢奢𡚨𡚨𡛪𡛪姬姬娛娛娧娧姘姘婦婦㛮㛮㛼㛼嬈嬈嬾嬾嬾嬾𡧈𡧈寃寃寘寘寧寧寳寳𡬘𡬘寿寿将将当当尢尢",
     "㞁㞁屠屠屮屮峀峀岍岍𡷤𡷤嵃嵃𡷦𡷦嵮嵮嵫嵫嵼嵼巡巡巢巢㠯㠯巽巽帨帨帽帽幩幩㡢㡢𢆃𢆃㡼㡼庰庰庳庳庶庶廊廊𪎒𪎒廾廾𢌱𢌱𢌱𢌱舁舁弢弢弢弢㣇㣇𣊸𣊸𦇚𦇚形形彫彫㣣㣣徚徚忍忍志志忹忹悁悁㤺㤺",
     "㤜㤜悔悔𢛔𢛔惇惇慈慈慌慌慎慎慌慌慺慺憎憎憲憲憤憤憯憯懞懞懲懲懶懶成成戛戛扝扝抱抱拔拔捐捐𢬌𢬌挽挽拼拼捨捨掃掃揤揤𢯱𢯱搢搢揅揅掩掩㨮㨮摩摩摾摾撝撝摷摷㩬㩬敏敏敬敬𣀊𣀊旣旣書書晉晉",
     "㬙㬙暑暑㬈㬈㫤㫤冒冒冕冕最最暜暜肭肭䏙䏙朗朗望望朡朡杞杞杓杓𣏃𣏃㭉㭉柺柺枅枅桒桒梅梅𣑭𣑭梎梎栟栟椔椔㮝㮝楂楂榣榣槪槪檨檨𣚣𣚣櫛櫛㰘㰘次次𣢧𣢧歔歔㱎㱎歲歲殟殟殺殺殻殻𣪍𣪍𡴋𡴋𣫺𣫺",
     "汎汎𣲼𣲼沿沿泍泍汧汧洖洖派派海海流流浩浩浸浸涅涅𣴞𣴞洴洴港港湮湮㴳㴳滋滋滇滇𣻑𣻑淹淹潮潮𣽞𣽞𣾎𣾎濆濆瀹瀹瀞瀞瀛瀛㶖㶖灊灊災災灷灷炭炭𠔥𠔥煅煅𤉣𤉣熜熜𤎫𤎫爨爨爵爵牐牐𤘈𤘈犀犀犕犕",
     "𤜵𤜵𤠔𤠔獺獺王王㺬㺬玥玥㺸㺸㺸㺸瑇瑇瑜瑜瑱瑱璅璅瓊瓊㼛㼛甤甤𤰶𤰶甾甾𤲒𤲒異異𢆟𢆟瘐瘐𤾡𤾡𤾸𤾸𥁄𥁄㿼㿼䀈䀈直直𥃳𥃳𥃲𥃲𥄙𥄙𥄳𥄳眞眞真真真真睊睊䀹䀹瞋瞋䁆䁆䂖䂖𥐝𥐝硎硎碌碌磌磌䃣䃣",
     "𥘦𥘦祖祖𥚚𥚚𥛅𥛅福福秫秫䄯䄯穀穀穊穊穏穏𥥼𥥼𥪧𥪧𥪧𥪧竮竮䈂䈂𥮫𥮫篆篆築築䈧䈧𥲀𥲀糒糒䊠䊠糨糨糣糣紀紀𥾆𥾆絣絣䌁䌁緇緇縂縂繅繅䌴䌴𦈨𦈨𦉇𦉇䍙䍙𦋙𦋙罺罺𦌾𦌾羕羕翺翺者者𦓚𦓚𦔣𦔣聠聠",
     "𦖨𦖨聰聰𣍟𣍟䏕䏕育育脃脃䐋䐋脾脾媵媵𦞧𦞧𦞵𦞵𣎓𣎓𣎜𣎜舁舁舄舄辞辞䑫䑫芑芑芋芋芝芝劳劳花花芳芳芽芽苦苦𦬼𦬼若若茝茝荣荣莭莭茣茣莽莽菧菧著著荓荓菊菊菌菌菜菜𦰶𦰶𦵫𦵫𦳕𦳕䔫䔫蓱蓱蓳蓳",
     "蔖蔖𧏊𧏊蕤蕤𦼬𦼬䕝䕝䕡䕡𦾱𦾱𧃒𧃒䕫䕫虐虐虜虜虧虧虩虩蚩蚩蚈蚈蜎蜎蛢蛢蝹蝹蜨蜨蝫蝫螆螆䗗䗗蟡蟡蠁蠁䗹䗹衠衠衣衣𧙧𧙧裗裗裞裞䘵䘵裺裺㒻㒻𧢮𧢮𧥦𧥦䚾䚾䛇䛇誠誠諭諭變變豕豕𧲨𧲨貫貫賁賁",
     "贛贛起起𧼯𧼯𠠄𠠄跋跋趼趼跰跰𠣞𠣞軔軔輸輸𨗒𨗒𨗭𨗭邔邔郱郱鄑鄑𨜮𨜮鄛鄛鈸鈸鋗鋗鋘鋘鉼鉼鏹鏹鐕鐕𨯺𨯺開開䦕䦕閷閷𨵷𨵷䧦䧦雃雃嶲嶲霣霣𩅅𩅅𩈚𩈚䩮䩮䩶䩶韠韠𩐊𩐊䪲䪲𩒖𩒖頋頋頋頋頩頩𩖶𩖶",
     "飢飢䬳䬳餩餩馧馧駂駂駾駾䯎䯎𩬰𩬰鬒鬒鱀鱀鳽鳽䳎䳎䳭䳭鵧鵧𪃎𪃎䳸䳸𪄅𪄅𪈎𪈎𪊑𪊑麻麻䵖䵖黹黹黾黾鼅鼅鼏鼏鼖鼖鼻鼻𪘀𪘀"]

/-- Words of which each begins with a character and goes on with those in its place. -/
def expansionTable : List (List Char) :=
  List.flatMap (fun words : String => partsAt ' ' words.toList)
    ["ĲIJ ĳij ĿL· ŀl· ŉʼn ǄDŽ ǅDž ǆdž ǇLJ ǈLj ǉlj ǊNJ ǋNj ǌnj ǱDZ ǲDz ǳdz \u0344\u0308\u0301",
     "ևեւ \u0675\u0627\u0674 \u0676\u0648\u0674 \u0677\u06c7\u0674 \u0678\u064a\u0674",
     "\u0958क\u093c \u0959ख\u093c \u095aग\u093c \u095bज\u093c \u095cड\u093c \u095dढ\u093c",
     "\u095eफ\u093c \u095fय\u093c \u09dcড\u09bc \u09ddঢ\u09bc \u09dfয\u09bc \u0a33ਲ\u0a3c",
     "\u0a36ਸ\u0a3c \u0a59ਖ\u0a3c \u0a5aਗ\u0a3c \u0a5bਜ\u0a3c \u0a5eਫ\u0a3c \u0b5cଡ\u0b3c",
     "\u0b5dଢ\u0b3c ำ\u0e4dา ຳ\u0ecdາ ໜຫນ ໝຫມ \u0f43ག\u0fb7 \u0f4dཌ\u0fb7 \u0f52ད\u0fb7",
     "\u0f57བ\u0fb7 \u0f5cཛ\u0fb7 \u0f69ཀ\u0fb5 \u0f73\u0f71\u0f72 \u0f75\u0f71\u0f74",
     "\u0f76\u0fb2\u0f80 \u0f77\u0fb2\u0f71\u0f80 \u0f78\u0fb3\u0f80 \u0f79\u0fb3\u0f71\u0f80",
     "\u0f81\u0f71\u0f80 \u0f93\u0f92\u0fb7 \u0f9d\u0f9c\u0fb7 \u0fa2\u0fa1\u0fb7",
     "\u0fa7\u0fa6\u0fb7 \u0fac\u0fab\u0fb7 \u0fb9\u0f90\u0fb5 ẚaʾ ⅡII ⅢIII ⅣIV ⅥVI ⅦVII ⅧVIII",
     "ⅨIX ⅪXI ⅫXII ⅱii ⅲiii ⅳiv ⅵvi ⅶvii ⅷviii ⅸix ⅺxi ⅻxii ゟより ヿコト ﬀff ﬁfi ﬂfl ﬃffi ﬄffl ﬅst",
     "ﬆst ﬓմն ﬔմե ﬕմի ﬖվն ﬗմխ \ufb1d\u05d9\u05b4 \ufb1f\u05f2\u05b7 \ufb2a\u05e9\u05c1",
     "\ufb2b\u05e9\u05c2 \ufb2c\u05e9\u05bc\u05c1 \ufb2d\u05e9\u05bc\u05c2 \ufb2e\u05d0\u05b7",
     "\ufb2f\u05d0\u05b8 \ufb30\u05d0\u05bc \ufb31\u05d1\u05bc \ufb32\u05d2\u05bc",
     "\ufb33\u05d3\u05bc \ufb34\u05d4\u05bc \ufb35\u05d5\u05bc \ufb36\u05d6\u05bc",
     "\ufb38\u05d8\u05bc \ufb39\u05d9\u05bc \ufb3a\u05da\u05bc \ufb3b\u05db\u05bc",
     "\ufb3c\u05dc\u05bc \ufb3e\u05de\u05bc \ufb40\u05e0\u05bc \ufb41\u05e1\u05bc",
     "\ufb43\u05e3\u05bc \ufb44\u05e4\u05bc \ufb46\u05e6\u05bc \ufb47\u05e7\u05bc",
     "\ufb48\u05e8\u05bc \ufb49\u05e9\u05bc \ufb4a\u05ea\u05bc \ufb4b\u05d5\u05b9",
     "\ufb4c\u05d1\u05bf \ufb4d\u05db\u05bf \ufb4e\u05e4\u05bf \ufb4f\u05d0\u05dc",
     "\ufbdd\u06c7\u0674 \ufbea\u0626\u0627 \ufbeb\u0626\u0627 \ufbec\u0626\u06d5",
     "\ufbed\u0626\u06d5 \ufbee\u0626\u0648 \ufbef\u0626\u0648 \ufbf0\u0626\u06c7",
     "\ufbf1\u0626\u06c7 \ufbf2\u0626\u06c6 \ufbf3\u0626\u06c6 \ufbf4\u0626\u06c8",
     "\ufbf5\u0626\u06c8 \ufbf6\u0626\u06d0 \ufbf7\u0626\u06d0 \ufbf8\u0626\u06d0",
     "\ufbf9\u0626\u0649 \ufbfa\u0626\u0649 \ufbfb\u0626\u0649 \ufc00\u0626\u062c",
     "\ufc01\u0626\u062d \ufc02\u0626\u0645 \ufc03\u0626\u0649 \ufc04\u0626\u064a",
     "\ufc05\u0628\u062c \ufc06\u0628\u062d \ufc07\u0628\u062e \ufc08\u0628\u0645",
     "\ufc09\u0628\u0649 \ufc0a\u0628\u064a \ufc0b\u062a\u062c \ufc0c\u062a\u062d",
     "\ufc0d\u062a\u062e \ufc0e\u062a\u0645 \ufc0f\u062a\u0649 \ufc10\u062a\u064a",
     "\ufc11\u062b\u062c \ufc12\u062b\u0645 \ufc13\u062b\u0649 \ufc14\u062b\u064a",
     "\ufc15\u062c\u062d \ufc16\u062c\u0645 \ufc17\u062d\u062c \ufc18\u062d\u0645",
     "\ufc19\u062e\u062c \ufc1a\u062e\u062d \ufc1b\u062e\u0645 \ufc1c\u0633\u062c",
     "\ufc1d\u0633\u062d \ufc1e\u0633\u062e \ufc1f\u0633\u0645 \ufc20\u0635\u062d",
     "\ufc21\u0635\u0645 \ufc22\u0636\u062c \ufc23\u0636\u062d \ufc24\u0636\u062e",
     "\ufc25\u0636\u0645 \ufc26\u0637\u062d \ufc27\u0637\u0645 \ufc28\u0638\u0645",
     "\ufc29\u0639\u062c \ufc2a\u0639\u0645 \ufc2b\u063a\u062c \ufc2c\u063a\u0645",
     "\ufc2d\u0641\u062c \ufc2e\u0641\u062d \ufc2f\u0641\u062e \ufc30\u0641\u0645",
     "\ufc31\u0641\u0649 \ufc32\u0641\u064a \ufc33\u0642\u062d \ufc34\u0642\u0645",
     "\ufc35\u0642\u0649 \ufc36\u0642\u064a \ufc37\u0643\u0627 \ufc38\u0643\u062c",
     "\ufc39\u0643\u062d \ufc3a\u0643\u062e \ufc3b\u0643\u0644 \ufc3c\u0643\u0645",
     "\ufc3d\u0643\u0649 \ufc3e\u0643\u064a \ufc3f\u0644\u062c \ufc40\u0644\u062d",
     "\ufc41\u0644\u062e \ufc42\u0644\u0645 \ufc43\u0644\u0649 \ufc44\u0644\u064a",
     "\ufc45\u0645\u062c \ufc46\u0645\u062d \ufc47\u0645\u062e \ufc48\u0645\u0645",
     "\ufc49\u0645\u0649 \ufc4a\u0645\u064a \ufc4b\u0646\u062c \ufc4c\u0646\u062d",
     "\ufc4d\u0646\u062e \ufc4e\u0646\u0645 \ufc4f\u0646\u0649 \ufc50\u0646\u064a",
     "\ufc51\u0647\u062c \ufc52\u0647\u0645 \ufc53\u0647\u0649 \ufc54\u0647\u064a",
     "\ufc55\u064a\u062c \ufc56\u064a\u062d \ufc57\u064a\u062e \ufc58\u064a\u0645",
     "\ufc59\u064a\u0649 \ufc5a\u064a\u064a \ufc5b\u0630\u0670 \ufc5c\u0631\u0670",
     "\ufc5d\u0649\u0670 \ufc64\u0626\u0631 \ufc65\u0626\u0632 \ufc66\u0626\u0645",
     "\ufc67\u0626\u0646 \ufc68\u0626\u0649 \ufc69\u0626\u064a \ufc6a\u0628\u0631",
     "\ufc6b\u0628\u0632 \ufc6c\u0628\u0645 \ufc6d\u0628\u0646 \ufc6e\u0628\u0649",
     "\ufc6f\u0628\u064a \ufc70\u062a\u0631 \ufc71\u062a\u0632 \ufc72\u062a\u0645",
     "\ufc73\u062a\u0646 \ufc74\u062a\u0649 \ufc75\u062a\u064a \ufc76\u062b\u0631",
     "\ufc77\u062b\u0632 \ufc78\u062b\u0645 \ufc79\u062b\u0646 \ufc7a\u062b\u0649",
     "\ufc7b\u062b\u064a \ufc7c\u0641\u0649 \ufc7d\u0641\u064a \ufc7e\u0642\u0649",
     "\ufc7f\u0642\u064a \ufc80\u0643\u0627 \ufc81\u0643\u0644 \ufc82\u0643\u0645",
     "\ufc83\u0643\u0649 \ufc84\u0643\u064a \ufc85\u0644\u0645 \ufc86\u0644\u0649",
     "\ufc87\u0644\u064a \ufc88\u0645\u0627 \ufc89\u0645\u0645 \ufc8a\u0646\u0631",
     "\ufc8b\u0646\u0632 \ufc8c\u0646\u0645 \ufc8d\u0646\u0646 \ufc8e\u0646\u0649",
     "\ufc8f\u0646\u064a \ufc90\u0649\u0670 \ufc91\u064a\u0631 \ufc92\u064a\u0632",
     "\ufc93\u064a\u0645 \ufc94\u064a\u0646 \ufc95\u064a\u0649 \ufc96\u064a\u064a",
     "\ufc97\u0626\u062c \ufc98\u0626\u062d \ufc99\u0626\u062e \ufc9a\u0626\u0645",
     "\ufc9b\u0626\u0647 \ufc9c\u0628\u062c \ufc9d\u0628\u062d \ufc9e\u0628\u062e",
     "\ufc9f\u0628\u0645 \ufca0\u0628\u0647 \ufca1\u062a\u062c \ufca2\u062a\u062d",
     "\ufca3\u062a\u062e \ufca4\u062a\u0645 \ufca5\u062a\u0647 \ufca6\u062b\u0645",
     "\ufca7\u062c\u062d \ufca8\u062c\u0645 \ufca9\u062d\u062c \ufcaa\u062d\u0645",
     "\ufcab\u062e\u062c \ufcac\u062e\u0645 \ufcad\u0633\u062c \ufcae\u0633\u062d",
     "\ufcaf\u0633\u062e \ufcb0\u0633\u0645 \ufcb1\u0635\u062d \ufcb2\u0635\u062e",
     "\ufcb3\u0635\u0645 \ufcb4\u0636\u062c \ufcb5\u0636\u062d \ufcb6\u0636\u062e",
     "\ufcb7\u0636\u0645 \ufcb8\u0637\u062d \ufcb9\u0638\u0645 \ufcba\u0639\u062c",
     "\ufcbb\u0639\u0645 \ufcbc\u063a\u062c \ufcbd\u063a\u0645 \ufcbe\u0641\u062c",
     "\ufcbf\u0641\u062d \ufcc0\u0641\u062e \ufcc1\u0641\u0645 \ufcc2\u0642\u062d",
     "\ufcc3\u0642\u0645 \ufcc4\u0643\u062c \ufcc5\u0643\u062d \ufcc6\u0643\u062e",
     "\ufcc7\u0643\u0644 \ufcc8\u0643\u0645 \ufcc9\u0644\u062c \ufcca\u0644\u062d",
     "\ufccb\u0644\u062e \ufccc\u0644\u0645 \ufccd\u0644\u0647 \ufcce\u0645\u062c",
     "\ufccf\u0645\u062d \ufcd0\u0645\u062e \ufcd1\u0645\u0645 \ufcd2\u0646\u062c",
     "\ufcd3\u0646\u062d \ufcd4\u0646\u062e \ufcd5\u0646\u0645 \ufcd6\u0646\u0647",
     "\ufcd7\u0647\u062c \ufcd8\u0647\u0645 \ufcd9\u0647\u0670 \ufcda\u064a\u062c",
     "\ufcdb\u064a\u062d \ufcdc\u064a\u062e \ufcdd\u064a\u0645 \ufcde\u064a\u0647",
     "\ufcdf\u0626\u0645 \ufce0\u0626\u0647 \ufce1\u0628\u0645 \ufce2\u0628\u0647",
     "\ufce3\u062a\u0645 \ufce4\u062a\u0647 \ufce5\u062b\u0645 \ufce6\u062b\u0647",
     "\ufce7\u0633\u0645 \ufce8\u0633\u0647 \ufce9\u0634\u0645 \ufcea\u0634\u0647",
     "\ufceb\u0643\u0644 \ufcec\u0643\u0645 \ufced\u0644\u0645 \ufcee\u0646\u0645",
     "\ufcef\u0646\u0647 \ufcf0\u064a\u0645 \ufcf1\u064a\u0647 \ufcf2\u0640\u064e\u0651",
     "\ufcf3\u0640\u064f\u0651 \ufcf4\u0640\u0650\u0651 \ufcf5\u0637\u0649 \ufcf6\u0637\u064a",
     "\ufcf7\u0639\u0649 \ufcf8\u0639\u064a \ufcf9\u063a\u0649 \ufcfa\u063a\u064a",
     "\ufcfb\u0633\u0649 \ufcfc\u0633\u064a \ufcfd\u0634\u0649 \ufcfe\u0634\u064a",
     "\ufcff\u062d\u0649 \ufd00\u062d\u064a \ufd01\u062c\u0649 \ufd02\u062c\u064a",
     "\ufd03\u062e\u0649 \ufd04\u062e\u064a \ufd05\u0635\u0649 \ufd06\u0635\u064a",
     "\ufd07\u0636\u0649 \ufd08\u0636\u064a \ufd09\u0634\u062c \ufd0a\u0634\u062d",
     "\ufd0b\u0634\u062e \ufd0c\u0634\u0645 \ufd0d\u0634\u0631 \ufd0e\u0633\u0631",
     "\ufd0f\u0635\u0631 \ufd10\u0636\u0631 \ufd11\u0637\u0649 \ufd12\u0637\u064a",
     "\ufd13\u0639\u0649 \ufd14\u0639\u064a \ufd15\u063a\u0649 \ufd16\u063a\u064a",
     "\ufd17\u0633\u0649 \ufd18\u0633\u064a \ufd19\u0634\u0649 \ufd1a\u0634\u064a",
     "\ufd1b\u062d\u0649 \ufd1c\u062d\u064a \ufd1d\u062c\u0649 \ufd1e\u062c\u064a",
     "\ufd1f\u062e\u0649 \ufd20\u062e\u064a \ufd21\u0635\u0649 \ufd22\u0635\u064a",
     "\ufd23\u0636\u0649 \ufd24\u0636\u064a \ufd25\u0634\u062c \ufd26\u0634\u062d",
     "\ufd27\u0634\u062e \ufd28\u0634\u0645 \ufd29\u0634\u0631 \ufd2a\u0633\u0631",
     "\ufd2b\u0635\u0631 \ufd2c\u0636\u0631 \ufd2d\u0634\u062c \ufd2e\u0634\u062d",
     "\ufd2f\u0634\u062e \ufd30\u0634\u0645 \ufd31\u0633\u0647 \ufd32\u0634\u0647",
     "\ufd33\u0637\u0645 \ufd34\u0633\u062c \ufd35\u0633\u062d \ufd36\u0633\u062e",
     "\ufd37\u0634\u062c \ufd38\u0634\u062d \ufd39\u0634\u062e \ufd3a\u0637\u0645",
     "\ufd3b\u0638\u0645 \ufd3c\u0627\u064b \ufd3d\u0627\u064b \ufd50\u062a\u062c\u0645",
     "\ufd51\u062a\u062d\u062c \ufd52\u062a\u062d\u062c \ufd53\u062a\u062d\u0645",
     "\ufd54\u062a\u062e\u0645 \ufd55\u062a\u0645\u062c \ufd56\u062a\u0645\u062d",
     "\ufd57\u062a\u0645\u062e \ufd58\u062c\u0645\u062d \ufd59\u062c\u0645\u062d",
     "\ufd5a\u062d\u0645\u064a \ufd5b\u062d\u0645\u0649 \ufd5c\u0633\u062d\u062c",
     "\ufd5d\u0633\u062c\u062d \ufd5e\u0633\u062c\u0649 \ufd5f\u0633\u0645\u062d",
     "\ufd60\u0633\u0645\u062d \ufd61\u0633\u0645\u062c \ufd62\u0633\u0645\u0645",
     "\ufd63\u0633\u0645\u0645 \ufd64\u0635\u062d\u062d \ufd65\u0635\u062d\u062d",
     "\ufd66\u0635\u0645\u0645 \ufd67\u0634\u062d\u0645 \ufd68\u0634\u062d\u0645",
     "\ufd69\u0634\u062c\u064a \ufd6a\u0634\u0645\u062e \ufd6b\u0634\u0645\u062e",
     "\ufd6c\u0634\u0645\u0645 \ufd6d\u0634\u0645\u0645 \ufd6e\u0636\u062d\u0649",
     "\ufd6f\u0636\u062e\u0645 \ufd70\u0636\u062e\u0645 \ufd71\u0637\u0645\u062d",
     "\ufd72\u0637\u0645\u062d \ufd73\u0637\u0645\u0645 \ufd74\u0637\u0645\u064a",
     "\ufd75\u0639\u062c\u0645 \ufd76\u0639\u0645\u0645 \ufd77\u0639\u0645\u0645",
     "\ufd78\u0639\u0645\u0649 \ufd79\u063a\u0645\u0645 \ufd7a\u063a\u0645\u064a",
     "\ufd7b\u063a\u0645\u0649 \ufd7c\u0641\u062e\u0645 \ufd7d\u0641\u062e\u0645",
     "\ufd7e\u0642\u0645\u062d \ufd7f\u0642\u0645\u0645 \ufd80\u0644\u062d\u0645",
     "\ufd81\u0644\u062d\u064a \ufd82\u0644\u062d\u0649 \ufd83\u0644\u062c\u062c",
     "\ufd84\u0644\u062c\u062c \ufd85\u0644\u062e\u0645 \ufd86\u0644\u062e\u0645",
     "\ufd87\u0644\u0645\u062d \ufd88\u0644\u0645\u062d \ufd89\u0645\u062d\u062c",
     "\ufd8a\u0645\u062d\u0645 \ufd8b\u0645\u062d\u064a \ufd8c\u0645\u062c\u062d",
     "\ufd8d\u0645\u062c\u0645 \ufd8e\u0645\u062e\u062c \ufd8f\u0645\u062e\u0645",
     "\ufd92\u0645\u062c\u062e \ufd93\u0647\u0645\u062c \ufd94\u0647\u0645\u0645",
     "\ufd95\u0646\u062d\u0645 \ufd96\u0646\u062d\u0649 \ufd97\u0646\u062c\u0645",
     "\ufd98\u0646\u062c\u0645 \ufd99\u0646\u062c\u0649 \ufd9a\u0646\u0645\u064a",
     "\ufd9b\u0646\u0645\u0649 \ufd9c\u064a\u0645\u0645 \ufd9d\u064a\u0645\u0645",
     "\ufd9e\u0628\u062e\u064a \ufd9f\u062a\u062c\u064a \ufda0\u062a\u062c\u0649",
     "\ufda1\u062a\u062e\u064a \ufda2\u062a\u062e\u0649 \ufda3\u062a\u0645\u064a",
     "\ufda4\u062a\u0645\u0649 \ufda5\u062c\u0645\u064a \ufda6\u062c\u062d\u0649",
     "\ufda7\u062c\u0645\u0649 \ufda8\u0633\u062e\u0649 \ufda9\u0635\u062d\u064a",
     "\ufdaa\u0634\u062d\u064a \ufdab\u0636\u062d\u064a \ufdac\u0644\u062c\u064a",
     "\ufdad\u0644\u0645\u064a \ufdae\u064a\u062d\u064a \ufdaf\u064a\u062c\u064a",
     "\ufdb0\u064a\u0645\u064a \ufdb1\u0645\u0645\u064a \ufdb2\u0642\u0645\u064a",
     "\ufdb3\u0646\u062d\u064a \ufdb4\u0642\u0645\u062d \ufdb5\u0644\u062d\u0645",
     "\ufdb6\u0639\u0645\u064a \ufdb7\u0643\u0645\u064a \ufdb8\u0646\u062c\u062d",
     "\ufdb9\u0645\u062e\u064a \ufdba\u0644\u062c\u0645 \ufdbb\u0643\u0645\u0645",
     "\ufdbc\u0644\u062c\u0645 \ufdbd\u0646\u062c\u062d \ufdbe\u062c\u062d\u064a",
     "\ufdbf\u062d\u062c\u064a \ufdc0\u0645\u062c\u064a \ufdc1\u0641\u0645\u064a",
     "\ufdc2\u0628\u062d\u064a \ufdc3\u0643\u0645\u0645 \ufdc4\u0639\u062c\u0645",
     "\ufdc5\u0635\u0645\u0645 \ufdc6\u0633\u062e\u064a \ufdc7\u0646\u062c\u064a",
     "\ufdf0\u0635\u0644\u06d2 \ufdf1\u0642\u0644\u06d2 \ufdf2\u0627\u0644\u0644\u0647",
     "\ufdf3\u0627\u0643\u0628\u0631 \ufdf4\u0645\u062d\u0645\u062f",
     "\ufdf5\u0635\u0644\u0639\u0645 \ufdf6\u0631\u0633\u0648\u0644",
     "\ufdf7\u0639\u0644\u064a\u0647 \ufdf8\u0648\u0633\u0644\u0645 \ufdf9\u0635\u0644\u0649",
     "\ufe71\u0640\u064b \ufe77\u0640\u064e \ufe79\u0640\u064f \ufe7b\u0640\u0650",
     "\ufe7d\u0640\u0651 \ufe7f\u0640\u0652 \ufef5\u0644\u0622 \ufef6\u0644\u0622",
     "\ufef7\u0644\u0623 \ufef8\u0644\u0623 \ufef9\u0644\u0625 \ufefa\u0644\u0625",
     "\ufefb\u0644\u0627 \ufefc\u0644\u0627"]

/-- The character in the place of one that is in a range. -/
def rangeReplacement? (n : Nat) : Option Char :=
  (replacementRanges.find? fun r => decide (r.1 ≤ n) && decide (n ≤ r.2.1)).map fun r =>
    Char.ofNat (r.2.2 + (n - r.1))

/-- The characters in the place of one. -/
def replacement? (c : Char) : Option (List Char) :=
  match rangeReplacement? c.toNat with
  | some d => some [d]
  | none =>
    match Entries.get? c replacementTable with
    | some d => some [d]
    | none => (expansionTable.find? fun word => word.head? == some c).map List.tail

end Blueprint.Text
