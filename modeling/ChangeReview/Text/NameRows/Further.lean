/-!
# Names of characters: characters beyond the basic plane

Names of characters by Unicode 14, from U+10000 on. The rows are one text, with marks for the words that recur. A name begins
with a small letter that tells how many characters it shares with the name before, `a` for none; each plus sign
before the letter adds 26. A name belongs to the code point after that of the name before, unless a semicolon
and a hexadecimal number stand in front of it.
-/

namespace ChangeReview.Text

/-- Ancient scripts, U+10000 to U+15FFF. -/
def ancientNames : List String :=
  ["Ù0ěäǹB ЄťB008 Au38 Eu28 Iu61 Ou10 Uu01 DAu45 DEu07Ǌu14 DOu51 DUv7 JAu46 JEÙ00Du36 JOu65 JUu77ƞu44 KEu67 ",
    "KIu70 KOu81 KUv0ƨu13Ȯu73 MIu15 MOu23 MUu06 NAu24 NEu30 NIu52 NOv5 NUu03Ǳu72 PEu39 PIu11 POu50 PUu16 QAu7",
    "8 QEu21 QIu32 QOÙ028u60 RAu27 REu53 RIu02Ȋu26 RUu31ǔu09 SEu41 SIu12 SOu58 SUv9Ųu04ɽu37 TIu05ʺu69 TUu54 W",
    "Au75 WEu40 WIv2 WOÙ03Cu17 ZAu74 ZEÙ03Fu20 ZOv5 A2u43 A3u85 AUu71 DWEu90 DWOu48 NWAu29 PU2u62 PTEu76 RA2u",
    "33 RA3u68Ȋ2v6Ų2u87 TWEu91 :Ù050lMBOL B018t9s22s34s47t9s56s63t4s79s82t3t6t9Ù080jɛȎ B100 ƣv2 WOƣv4 DEERv5 ",
    "EQUIDwFƨREwM STĺĩv6F EWEwM Ȩv7F å-GOATwM HE-GOATv8F SOWwM BOARv9F COWwMƬLLu20 WHƸv1ŢLEYv2 OL|v3 SPɿv5 CY",
    "ġUSjŻOȎ B127ƞPOv8ƞNAKOjɛȎ B130 OILv1 Wǡv2jŻOȎ B133ƮEPAv5ȮRIjɛȎ B140 BŦZEv1 Gȴv2v5 ʕLv6u50v1 ƫv2v3v4jŻOȎ ",
    "B156 TURO2jɛȎ B157v8v9 CLOTHu60v1v2 ǫȆv3ƮMOURv4v5v6ӊu70v1v2v3 ŻTHv4v6 TREEӊu80v1v2v3v4v5v9u90v1 HELMETt2",
    "20 FOOTSTOOLv5 BATHTUBu30 SPǌv1Év2v3 SХv4v6u40 WЏ%ŗRIOTv1 ŗRIOTv2 ŗRIOT FȨEv3 WЏv5v6jŻOȎ B247ǊPTEjɛȎ B24",
    "8v9u51v2v3v4 DARTv5v6ӊsVESSEL B155+a200+c1+cԜ+c6+c7+c8+c9+b10+c1+cԜ+c6+c7+c8+c9+b21+c2+c6+c7+c8+c9+b50+a",
    "305Ù1ěAEGEĜХ Ɉ äwƛhùCKÆÙ107hˡԎoĀpƐpǙo˼pɚo˽pуoÅYoѠoȈo:ÿp[ÿo@ÿp|ÿoÕÿp×ÿoÅÿoĈÿo$Ño:Ñp[Ño@Ñp|ÑoÕÑp×ÑoÅÑoĈÑoĀ",
    "ÑpƐÑpǙÑo˼ÑpɚÑo˽ÑpуÑoÅYÑoѠÑÙ137hWÅ BASE UƯoFIRST ǥUƯoSEƤD ǥUƯo˞ ǥUƯo@TH ǥUƯhDRYȮASURE FIRST ǥUƯhLIQUIDȮAS",
    "URE FIRST ǥUƯhMEASURE SEƤD ǥUƯp˞ ǥUƯaʳACR˹ONîATTî$ ȇ+bĸ+bDȪHMAxF|zFTYzVEÿ+cМzFTYÑzVEŲLØSxĀŲLØSxFɚŲLØSxȈŲ",
    "LØSxF|ÿŲLØSx$ÑŲLØSxF|ÑŲLØS+cȬTǆxTķȬTǆxFɚ ȬTǆxȈ ȬTǆxF|ÿ ȬTǆx$Ñ ȬTǆxĀÑ ȬTǆxFɚÑ ȬTǆxTķMNASrHERAEѸ$ PLïŦrÌSP",
    "ą$rHERMĩą$rEPIDAUREĜ:rÌSPą:rCYRENAî: DȪHMASrEPIDAUREĜ: DȪHMASrȵEZENąF|+cĀ+f ˳ƃrHERMĩąĀrMESSENąĀrÌSPąĀ+bǙ",
    "sROEZENąFɚ+h ˳ƃrHERMĩąFɚrÌSPąFɚ+aȈ+aT[ÿrEPIDAUREĜF|ÿrȵEZENąF|ÿsHESPąF|ÿrɁYSTąF|ÿrNAXąF|ÿrÌSPą$Ñ+aF|ÑrǳPH",
    "îНMNASrSĶTąFɚ MNASg$ ĸÍt ˳ƃg: ˞SÍh[ ȇSőYǌőTALØőDȪHMAőOBOLő: OBOLSÍh[ OBOLSő@ OBOLSÍh| OBOLSőMETRETESőKYA",
    "THOS BASEőLIĶőOUNKIAőXţESőARTABEÍiOURAőGRƒőTRYBLIŝBASEőщő$ ȇőSINUSOIDőĦICȿaNOMIɇÍÙ190aROMĜSEXȭSőUNCIAőSE",
    "MUNCIAÍiXTЍőDIMIDIA SEXTЍőSILIQUAőDENARIUSőQUINARIUSőSEʶTIUSőDUPONDIUSőASőеURIALÎASCIAċÙ1A0aʳǢTAU ʈÙ1D0a",
    "PHAISTOSǊSCƗPEDESżANuLUM%ŷtTATTOO%ŷtCAPT|uHILDtWOƣtHELMETtGAUNTLETtTIýtÛtBOWtëELDtCLUBtƣACLESvTTOCKtSAWt",
    "LIDtBOOMER^tɁPØRY ɄNEtDOLIUMtCOMBtSL,tCOLUMNtBEEH|tëPtƫuɢtBULLS LEGtCATtȨtEAGLEtDOVEtTUNNYtBEEtɄNE TREEt",
    "VǡtPAPYRUStROʨTEtLILYtOX ȯtFLUTEtѐÐtSĶǡRuMĺ AXEtWAVY BûtȄѕðÙ280aLYCą&AoEoBpHoGoDoIoWoZoTHoJoKoQoLoMoNoMM",
    "oNNoUoPoKKoRoSoTpToANoENoHoXÙ2A0aɁą&AoP2oDoLoUUUoRoLDoA2oQoBoMoOoD2oToSHq2poC-18oUoNNoXoNoTT2oPoSSoIoEoU",
    "UUUoKp2oNDoUUoGp2oSTq2oNGoIIoC-39oTToUUU2oRRoMBq2q3q4oLD2oE2oUUU3Ù2E0bOPTîEPACTÑSÆnʟ$t:u[t@ҺnЖvƐvǙu˼vɚu˽",
    "vуuÅYuѠuȈu:ÿv[ÿu@ÿv|ÿuÕÿv×ÿuÅÿuĈÿÙ3ěƥǰL˫AsBEsKEsDEsEsVEsZEsHEsÌsIsKAsELtMtNtSHsOsPEsåsKUsERtSsTEsUsEKSsP",
    "HEsKHEsEFtRSsùsIIsUUsESSlћ]$tF|tĀtFɚÙ32Dl&YEsʜÌRN TSEsSǀERN TSEaGOTH˫AHSAoBǃKANoGIBAoDAGSoAIHVUSoQǃTHRAo",
    "IUJɱGLoTHIUTHoEISoKUɇoȐUSoMAĿoNAUTHSoJERoURUSoPǃTHRAoѠoRAIDAoSAUILoTEIWSoWINJAoFAIHUoIGGWSoHWǃoOƧLoĈÿÙ35",
    "0aƥġM˫ANsBURsGAIsDOIsEsZHOIsDZHOIsZATAsDZǰsIsKOKEsLEIsMENOEsNENOEsVOOIsPEEIsREIsSIIsTAIsUsùRYsɔOIuCHOOIs",
    "YRYtERUsOtOsEFsHAsTSIUsVERsYERvItATsIEsYUtAsIAaȄƥġM˫AN+cDOI+cZATƘNENOE+cSIIÙ380aUǫIT˫ALPAqBǯqGAMLAqƈqǳTA",
    "qHOqWOqZǯqHOTAqTETqYODqɟqëNqáDAqMEMqDHALqƋqZUqSAMKAqñqPUqSADEqQOPAqRA?qƧĿqгqTOqIqUqSSUÙ39FjХǊVIDÞƥɪąÄArI",
    "rUrKAsUrGAsUrXArCArJAsIrTAsUrDAsIsUrƧrPArBArFArNAsUrMAsIsUrYArVAsIrRAsUrLArSArZAr?sSArHAÙ3C8rAUȨAZDAA+b-",
    "2+bHArX?éTHIYArDAHYAAUSH+a-2rBAGAsUUMãmХǊVɢRmˡt:uENuƐtHǍREDÙ4ěDESERET ŋāI+cE+cǂH+cO+dOxŹI+dE+dƓH+dO+eOxA",
    "YxOWxWUxYEExHxPEExBEExTEExDEExùExJEExKAYxGAYxEFxVEExïxÌExESxZEExćxZHEExERyLyMyNzGxOIxEWi/&āŔȩA+bH+aO+bOv",
    "ŹIɾ+bƘH+bO+cOvAYvOWvWUvYŉHvPŉBŉTŉDŉCHŉJŉKAYvGAYvEFvVŉïvTHŉESvZŉćvZHŉERwLwMwNxGvOIvEWa?Vą&PEEPpTOTpKŏpFEE",
    "pTHIGHpSOqUREpCHURCHpYEApHŪpBIBpDEADpGAGpVOWpÌYpZOOpMEASUREpJUDGEpWOEpHA-HApLOLLpMŒpIFpEGGpêqDOpONpʕLpƩp",
    "AHpROARpƋpƸpƙpɿpUPpOAKqOZEqILpAWEqREpORpǃpERRpARRAYpǌpIANpYEWaOɇþ &ƴpBApTApJApXApƈpDEELpRApSAqHIINpDHApC",
    "AYNpGApFApQAAFpKAAFpLAANpMIINpNUUNpǚpHApYApApEpIpOpUpAApEEpOOÙ4A0ӴӟÙ4B0cƙ ŋAwIxNwHvBRAvŗvEHŗwwINvHAwYAvI",
    "vKAvEHKAvKYAvLAvMAvNAvOwINvPAvEHPAvSФTAvEHTAvƔvEHƔvT?vDHAvUvWAvƈvGHAvZAwHAÙ4D8#AuIvNuHtBRAtŗtEHŗuuINtHAu",
    "YAtItKAtEHKAtKYAtLAtMAtNAtOuINtPAtEHPAtSиTAtEHTAtƔtEHƔtT?tDHAtUtWAtƈtGHAtZAuHAÙ5ěELBASĜ&ApBEpCEqHEpDEpND",
    "EpDHEpEIqpFEpGEqJEpHEpIpJEpKEpLEqLEpMEpNEqAqJEpOpPEpQEpREqREpSEqHEpTEqHEpUpVEpXEpYpZEqHEpGHErƒpKHEÙ530aC",
    "AUCASąALBANą&ALT+aBET+aGIM+aDAT+aEB+aZARL+aEYN+aZHIL+aTAS+aCHÓYOWD+aZHÓIRB+a?+aLAN+ƭYÓXEYN+aDYAN+aɁ+aJHO",
    "X+aKAR+aLYIT+aHEYT+aQAY+aAOR+aCHOY+cI+bYAY+aMAQ+aQAR+aNOWC+aDZYAY+a?K+aJAYN+aоaTYAY+aFAM+aDZAY+aŗT+aPEN+",
    "aGHEYS+aRAT+aSEYK+aVEYZ+aTIWR+aɔY+aIWN+aCYAW+bAYN+aYAYD+aPIWR+aKIWÙ56FtCǰŶaVITHKUQI ŋAyBBEzEyCEzHEyDEzHE",
    "yEIzyFEyGAÙ57CyHAzHAyIzJEyJEyKAyLAzLAyMEyNEzJEyOyPEyQAyREÙ58CySEzHEyTEzHEyUyVEyXEÙ594yYyZEÙ597~AwBBExEwC",
    "ExHEwDExHEwEIxwFEwGAÙ5A3wHAxHAwIxJEwJEwKAwLAxLAwMEwNExJEwOwPEwQAwREÙ5B3wSExHEwTExHEwUwVEwXEÙ5BBwYwZEÙ6ěä",
    "ǹAƗABʂs2s3s4s5s6s7s8s9r10s1s3s6s7r20s1tFtMs2tFtMs3tMs4s6s7s8p028BpB029r30s1s4s7s8s9r40s1s4s5s6s7s8s9r50s",
    "1s3s4s5s6s7s8s9r60s1s5s6s7s9r70s3s4s6s7s8s9r80s1s2s5s6s7p100-102pB118r20p120BpB122s3r31AtBp131CpB164r71r",
    "80s8r91p301r2r3r4ѿAsBsCq10r1r2r3AsBsCr4ѿq2ҝѿq3ҝѿq4ҝѿq5ҝѿq6ҝѿq70r1p400й1й2й3й4й5й6й7й8й9-VASq10й1й2й3й4й5",
    "й6й7й8-VASp501rԥ8r9q10r1r2r3r5r6q20r1r3r4ѿq30r1r2r4ѿq40r1r2r5r7r8r9q50r1r2rԪ9q63r4r5r6r8r9q7ҝѿq8ҝѿq91r2r",
    "4r5r6r8p60ҝr6r8r9q1ҝѿq2ҝr6r7r8r9q34r7r8q40rԥ8r9q51r2r3r4ѿq6ҝÙ740p701 Ar2 Br3 Dr4 Er5 Fr6 Hr7 Jr8 Kr9 Ls-",
    "2 L2t3 L3t4 L4t6 L6q10 Wr1 Xr2 Yr3 Ȃr4 ABBr5 BBr7 DDq26 EYYYq32 JEÙ760p800r1r2ԩÙ780aʖɵAArUġɡˤƑ+cŐˤƑrMĺ A",
    "EwõBwBòÙ787wDZʡ+g!ǧ+mɓxEZHʡx˅+dĊ+h(ǓwăEwȺăĖEwFƚʡwȨS ƫwõGwGòwõGòwHÔwõHwHƚòwƛЫJÔЩwLSʡxZʡx!BELTwõL!BELTwL!ǧ",
    "(BELTxEZH+a!ǧwèY+e!BELTwOÔwõOExLOS%ȂwQwèR!āLEG+s(ǧwR˅+dFãĊwõRwTCʡ!ɓxSʡ+g!ǧxćʡx!ǧwV!.ĊÙ7B2wõYqʉɗÔqăʉɗÔqBI",
    "LABI]CLŏqDØ]CLŏqLAÐ]CLŏqALVEOLǹCLŏqREȵFLEX CLŏ!ǧq/S!ɓÙ8ěCYPRIOT ЄťAӔJAÙ808sOÙ80ArKҜrLҜrMҜrNҜrPҜrRҜrSҜrTҜ",
    "rWAsEsIsOÙ837rXAsEÙ83CrZAÙ83FsOaIMġI]AȨA˫ŴPHyBïyGŒLyҁyHEyǚyZȓyHïyTïyъyюyѥyMEMyƋyљyȓyPEyњyQ˹yRćyëNyTAWÙ85",
    "7rɣȿrˡy:z[zENzƐyȈ+cМyĀÑaPALMYRENE &ŴPHrBïrGŒLrҁrHErǚrZȓrHïrTïrъrюrѥrMEMrŚƋrƋrљrȓrPErњrQ˹rRćrëNrTAWmFTƎFL",
    "EUŦk˂FLEUŦkˡr:s[r@s|rĀsƐaNABATAEĜ&ŚŴPHrŴPHrŚBïrBïrGŒLrҁrŚHErHErǚrZȓrHïrTïrŚъrъrŚюrюrŚѥrѥrŚMEMrMEMrŚƋrƋrљ",
    "rȓrPErњrQ˹rRćrŚëNrëNrTAWÙ8A7kˡr:s[r@kCRUCIƃ ˆç@kˆçF|rĀsƐrȈÙ8E0aHATRĜ&ŴPHoBïoGŒLoҁ-RćoHEoǚoZAYNoHïoTïoъoю",
    "oѥoMEMoƋoљoAYNoPEoњoQ˹Ù8F4oëNoTAWÙ8FBhˡoF|oĀpƐoȈaPHOENICą&ALFsBETsGAMLsǳTsHEsWAUsZAIsHETsTETsYODsɟsáDsME",
    "MsƋsSEMKsñsPEsSADEsQOFsROSHsëNsTAUlˡsĀtƐsȈs:t[Ù91FlХ ɈaLYDą&AoBoGoDoEoVoIoYoKoLoMoNoOoRoSSoToUoFoQoSoTTo",
    "ANoENoLYoNNoCÙ93FhˤǣÙ980aMEROITîHIEROGLYPH˫ǂE+dI+dO+dYǂWǂBA+f-2+dPǂMǂNA+f-2+eE+f-2+dRA+f-2+dLǂKHǂHHǂSA+f",
    "-2+eE+dKǂQǂǕf-2+eE+f-2+eO+dDAwǢVIDJ+h-2jCURS| &AyEyIyOyYAyWAyBAyPAyMAyNAzEyRAyLAyƈyHHAySAyARДSAySEyKAyQA",
    "yTAzEzOyDAÙ9BCrFЕEL×ҷa$ ĸrLOGOȎ RMT+aIMNrˡy:z[y@ԄyĀzƐzǙy˼zɚy˽zуÙ9D2yȈy:ÿz[ÿy@ÿz|ÿyÕÿz×ÿyÅÿyĈÿy$Ñy:Ñz[Ñy@",
    "Ñz|ÑyÕÑz×ÑyÅÑyĈÑyĀÑzƐÑzǙÑy˼ÑzɚÑy˽ÑzуÑyÅYÑyѠÑyȈÑyԝМz[ÿÑy@ÿÑz|ÿÑyÕÿÑz×ÿÑyÅÿÑyĈÿÑrFЕ$ TWELFTH+a:ҷb[ҷa@ҷb|ҷa",
    "Õҷb×ҷaÅҷaĈҷaTķTWELFTHSaƈROSHTHI &AlǋIwUwƀÙA05wEwOÙA0CrѢlÄ>R,ÊqŮqǨl&K˟GAtHAÙA15sC˟JAÙA19sþsĪuHAsľuHAsĿsT˟",
    "D˟NAsP˟B˟MAsYAsRAsLAsVAs?tSAtAsZAsHAsKKAsTTƧvAsVHAÙA38lÄĝ*qCAUDAqʘÙA3Flɉlʟ$r:s[r@lЖtƐsȈwМlFЕ$ ĸÙA50lǟŨx/",
    "ÇxÇyıеŢxM^AáxLOTUSxDɼyѣxäSÙA60aƥSǀ ýBą&HEzѥzHïzMEMzQ˹zǚzëNzRćzBïzTAWzSATzюzƋzKHïzњ+bMEKHzFEzƴ+aYNzDHADHE",
    "zGŒLzҁzGHAYNzTïzZAYNzDHALïzъzƧW+bïsˡzFɚvERîĦɺśeʜTH ýBą&ħzázƇzĉzQAFzǚzES-2zɋzBEHzTEHzES-1zɟzǎzƄzSADzES-3z",
    "FEHzƴ+ƭzDADzGEEMzDALzгzȼzZñzƧLzƳzTħzZAHsˡzĀ+aƐÙAC0aƣIŗEĜ&ŴPHsBïtHïsGŒLtHŒLsҁsHEsǚlÄUDl&ZȓtHȓsJȓtHȓsHïsTï",
    "sъsюsXAPHsƈPHsѥsDHAMEDHsƧMEDHsMEMsƋsљsȓtȓsPEsFEsњsQ˹sX˹sQH˹sRćsëNtëNsTAWlСŶ*+dȏÙAEBlˡsF|sĀtƐsȈlǟ ǤxFLEUŦ",
    "x>ƛ ʁINŨzT ʁINŨ+axƅxȡFĎERÙBěAVţĜ&AqAqOqAOqNqANqErEpEqEpOqOӕKEpXEqYEqVEpGEqGEqHEpCEpJEpTEqHEpDEqHEpTTEpPE",
    "pFEpBEqHEpNGErYErVEqEqYEqNEpMEpHMEpYYEqEpVEpREpLEpSEpZEpåpZHEpSHYEqåpHEÙB39iСŶaTINY ƅÖ$Ũ ǟa/ƅÖ$Ũ ǟaȢƅÖ$Ũ",
    " ǟg$ŨÖƅ ǟg: R,SÖ$ R=ǟg$ R,Ö: R,S ǟƭSCRIPŖ]ƂTHą&ŴPH+eBï+eGŒL+eҁ+eHE+eǚ+eZȓ+eHï+eTï+eъ+eю+eѥ+eMEM+eƋ+eљ+eȓ",
    "+ePE+eњ+eQ˹+eRć+eëN+eTAWÙB58xˡ+e:+f[+e@+eĀ+fƐ+eȈ+iМqHLAVI &ŴPH+dBï+dGŒL+dҁ+dHE+dǚ-ȓ-Rć+dZȓ+dHï+dTï+dъ+dю",
    "+dѥ+dMEM-Q˹+dƋ+dљ+dPE+dњ+eHIN+dTAWÙB78wˡ+d:+e[+d@+dĀ+eƐ+dȈ+hМaPSALÐǱHLAVI &ŴPHxBïxGŒLxҁxHExǚ-ȓ-RćxZȓxHïx",
    "ъxюxѥxMEM-Q˹xƋxљxPExњyHINxTAWÙB99qɣŶqèɣŶq@ɑ!Ģ+fƛÙBA9qˡx:y[x@xĀyƐxȈÙCěƥTURK˫ORKHŝAʅAɾʆIʅŔEʆO+aEʅOEʆABʅABʆ",
    "AEBʅAEBʆAGʅAGʆAEGʅAEGʆADʅADʆAEDzEZʅEZʆAYʅAYʆAEYʅAEYʆAEKʅAEKʆOEKʅOEKʆALʅALʆAELzELT+aMzAN+aENʅAENʆØʅØʆENCʅ",
    "ENCʆENYʅENY+a^ʆƚʅAƚʆEPzOPzICzECʅECʆAQʅAQʆIQʅIQʆOQʅOQʆARʅARʆAER+aS+aES+aSHʅêʆćʅćʆATʅATʆAETʅAETʆOTzBêÙC80e",
    "HUNǫąŋƓǂEB+dAMB+dEC+eNC+eCS+eD+dû+dE+dЃE E+dEE+eF+eG+fY+eH+dI+eI+dEJ+eK+dAK+dUNK+dEL+fY+eM+eN+fY+dO+eO+d",
    "NIKOLSBURG OE+dRUDIȆA OE+dOEE+dEP+eMP+eR+dŹER+dES+fZ+eT+eNT+eTY+eCH+dU+eU+dNIKOLSBURG UE+dRUDIȆA UE+dEV+",
    "eZ+fS+eNT-?PEDÍ+dUSÙCC0o/&ƘAɾB+bAMBɾC+cNC+cCS+cD+bûɾ+bЃE EɾE+cF+cG+dY+cH+bI+cIɾJ+cK+bAK+bUNKɾL+dY+cM+cN+",
    "dY+bO+cO+bNIKOLSBURG OE+bRUDIȆA OE+bOEEɾP+cMP+cR+bŹERɾS+dZ+cT+cNT+cTY+cCH+bU+cU+bNIKOLSBURG UE+bRUDIȆA U",
    "EɾV+cZ+dS+cNT-?PEDÍ+bUSÙCFAoˡvF|vĀvFɚvȈzМaHANIFIȊH,YA &AxBAxPAxTAyTAxJAxCAxHAxƈxFAxDAyDAxRAyRAxZAxSAyHAx",
    "KAxGAxLAxMAxNAxWAxKIĿ WAxYAxKIĿ YAxøyYAxVAqЮ AwIwUwEwOqǣǔKINvNA KHOĿqÄHARBAHAYvȼŞxNAxSSIÙD30qčw$w:x[w@x|",
    "wÕx×wÅwĈÙE60aRUMI ʟ$l:m[l@ԆfЖnƐnǙm˼nɚm˽nуmÅYmѠmȈm:ÿn[ÿm@ÿn|ÿmÕÿn×ÿmÅÿmĈÿfFЕ$ ĸsȇs˞o: ˞SÙE80aYEZIDI &ELIF",
    "oBEoPEpHEoÌoSEoCIMpHIMqHIMoHHAoXAoDALoZALoRƼZAoJAoSINpHINpADoDADoTAoZEoEYNoXHEYNoFAoVAq ˳ƃoQAFoɟpHAFoGAF",
    "oáoMIMoƋoUMoǚoOWoEWoHAYoYOToETÙEABhȄțÆrMAľÆhзAŶÙEB0h&áĒoYOTĨ*ÙFěƥSOGDą&ŴPHtŚŴPHtBïtŚBïtGŒLtHEtŚHEtǚtZȓtH",
    "ïtъtюtѥtMEMtƋtŚƋ+c!ĚǓtљtȓuLÐєȓtPEtњtŚњ+e!ĚǓtRć-ȓ-ҁtëNtTAWtŚTAW+c!ĚǓmˡt:u[t@u|tĀuƐuǙtȈmFЕ$ ĸmLȸȓ-ҁÙF30aSO",
    "GDą&ŴPHpBïpGŒLpHEpǚpZȓpHïpъpюpѥpMEMpƋpљpȓpPEpњpRć-ȓpëNpTAWpFïpLćiĦEPƌØ ëNiȄʘsƅÊsʌsƅ*sɥE*yȏsĊ*xȏsāĊÊsRćÊs",
    "ðÊiˡpĀqƐpȈiǟ : ȔS+lǗSuÇǗu: ÇSǗSuŐÇǗÙF70aƥUYGHUR &ŴPHsBïsGŒL-HïsǚsZȓsŚHïsъsюsѥsMEMsƋsљsPEsњsRćsëNsTAWsLćl",
    "Ȅʌzȏvƅ*+eȏlǟŢx:ŢS+bƛSx@ɑÙFB0aCǮASMą&ŴPHs/ŴPHsBïsGŒLsҁsHEsǚsɓ%ǚsZȓsHïsъsюsѥsMEMsƋsљsȓsPEsRćsëNsTAWlˡs:t[s",
    "@sĀtƐsȈÙFE0aELYMA˫ŴPHpBïpGŒLpҁpHEpǚpZȓpHïpTïpъpюpѥpMEMpƋpљpȓpPEpњpQ˹pRćpëNpTAWjȸZȓ-ъÜ0ěBRAHMIƗʄmŮmǨmJӿmԁ",
    "h&ApAoIpIoUpUoƀxRwLxLoEoAIoOoAUoKƼGƼøoCƼJƼþoĪɅoľɅoĿoTƼDƼNAoPƼBƼMAoYAoRAoLAoVAo?pSApɱoĘoȴŲɕ LĘyRRAyNĿhƿAs",
    "BHATTIƜLU AAԋƀ+bR+aL+bLsEsAIsOsAUiIȨAhDɼiѣhǟŨvUфƛtätҋŢtLOTUSÜ052hˡԎoĀpƐpǙo˼pɚo˽pуoÅYoѠoȈsМhčn$n:o[n@ԅhÄȴ",
    "Ųɕ ɉh&ȴŲɕ ŹE+eOhǋȴŲɕ ŹE+iOh&ȴŲɕ ĘÜ07FhˆçɯÞKAITHIƗʄmŮmǨh&ApAoIpIoUpUoEoAIoOoAUoKƼGƼøoCƼJƼþoĪɅoľqDHAɅoRHAo",
    "ĿoTƼDƼNAoPƼBƼMAoYAoRAoLAoVAo?pSApɱhƿAԋEsAIsOsAUhÄɉmʬhСȿhEћAȿhˆERÍhɣŶh>ɣŶiɼiѣhǋƀÜ0CDhˆERÍ*Ü0D0aSORA SOMPƚ",
    " &SAHuȼuBAHuCAHuDAHuGAHuMAHuøHuLAHuNAHuVAHuPAHuYAHuRAHuƇuKAHuJAHuþHuAHuEEHuIHuUHuOHuEHuMAEÜ0F0nčt$t:u[t@",
    "ҺÜ1ěŗKMAƗʄmŮmǨh&AAoIoUoEoKA˚AoGA˚AoøAoCA˚AoJA˚AoþAoĪAɅAoľAɅAoĿAoTA˚AoDA˚AoNAAoPA˚AoBA˚AoMAAoYYAApAAoRAAo",
    "LAAoǁoSAɱAhƿԋEsAIsOsAUsOIhOÆhAUÆhɉhMAAYYAAÜ136hčn$n:o[n@ԅhɣŶhDɼiѣhʣh&LHAAhƿAsEIh&VAAÜ150aMAHAJANI &AqIqU",
    "qEqOqKəGəCəJəþqĪsHAqľsHAqĿqTəDəNAqPəBəMAqRAqLAqVAqSAɅqRRAjÄʬjСȿjɣŶjLȸSHRIÜ180a?RADAƗʄnŮnǨi&AqAӕƀyRxLyLpE",
    "pAIpOpAUpKӋӫҪApPҌBҌMԭqLApԉiƿҭƀ+cR+bL+cLtEtAItOtAUiÄɉnяnJӿnԁiOMiDɼjѣiСȿiɈjûHIÆjIGN ʬiЮ ʖǣiEXĶ ŹЮÆiSUĶÆiǋP",
    "RãƧMAĶ EiÄĠʄӴӟiEKAMiÄSIDDHAMiŷðiэINUAȿiɣŶ-1v2Ü1E1bINHŞƮДʟ$w:x[w@x|wÕx×wÅwĈqЖyƐyǙx˼yɚx˽yуxÅYxѠxȈ+bМÜ2ěKHO",
    "JKI &ApAoIoUoEoAIoOoAUoKƼGApGƼøoCƼJApJAÜ213oþoĪɅoľɅoĿoTƼDApDDƼNAoPƼBApBƼMAoYAoRAoLAoVAoSɱoĘhƿAsItIsUsEsA",
    "IsOsAUhÄŮmɉmʬm?ľhDɼiѣhХ ɈhɣŶh>ɣŶhСȿhÄSUKUNÜ280aMULȭI &ApIpUpEpKҌGAÜ288ɅÜ28ApCҌJAqJAÜ28FpԢDArҪApPҌBAÜ29FɅ",
    "pMAҬVApS˚pRRAɅiɣŶÜ2B0aKHUDAWADI &AsӰrErAIrOrAUrKʠGAsGʠørCʠJAsJʠþrĪtHArľtDArRRArDDHArĿrTʠDʠNArPʠBAsBʠMArY",
    "ArRArLArVAr?sArHAkÄŮkƿAvIwIvUwUvEvAIvOvAUkÄʬpɉÜ2F0kčq$q:r[q@ӤÜ3ěѐNƧƗȄŮ*oûRABĦUnŮnǨÜ305i&AqAӕƀxLÜ30FpEEpA",
    "IÜ313pOOpAUpKӋӫҪAÜ32ӓpYApRAÜ332pLAqLAÜ335pԉÜ33BaȄBĦUÊaѐNƧƗʬnяiƿҭƀ+cRÜ347tEEtAIÜ34BtOOtAUiÄɉÜ350iOMÜ357iA",
    "U ѢÜ35DiÄPLUTAi&VEDîŮv>ŮqOCALîRRxLLiӑcLÜ366aȄѐNƧ čy$y:z[y@z|yÕÜ370s&AzKAzNAzVIzPAÜ4ěNEWA &AnAmInImUnUmƀv",
    "RuLvLmEmAImOmAUmKȒGȒNGɱmCȒJȒNYɱmTTɱmDDɱmĿmTȒDȒNȒPȒBȒMȒYAmRȒLȒWAm?nSAnAmHAfƿԌqƀzRyLzLqEqAIqOqAUfÄɉkʄkŮkǨk",
    "ʬkяkŚŮfOMfSIDDHIfDɼgѣfĤfGAP FĎERfСȿfčl$l:m[l@ԆgOUфĤfɄCEHȴERÆÜ45DfINSERȿfSûHIÆf&VEDîŮfÄJӿkԁÜ480aTIRHUTA A",
    "NJIi&AqAӕƀyRxLyLpEpAIpOpAUpKӋӫҪӓҬԉiƿҭƀ+cR+bL+cLtEtŹEtAItOtŹOtAUiÄʄnŮnǨpȨAnʬnяiGV^iСȿiOMÜ4D0ӴӟÜ580aSIDDHA",
    "M &AqAӕƀyRxLyLpEpAIpOpAUpKӋӫҪӓҬԉiƿҭƀ+cRÜ5B8tEtAItOtAUiÄʄnŮnǨpȨAnʬnSIDDHAMiDɼjѣiɈŨsĝiREPETIŶ-1y2y3iʯTEXTÆ",
    "iɣŶ!żDØ(U-?P%ѩS+mȽҋS+aRAYS(ȽҋS+q>ҋS+qǝҋSv>R,+g!RAYSvʁ >ҋS+aǝҋS+aʑRUPťҋS+aSEPTUPťҋS+aÇS(RAYS+m: ENЃUı+m@ ",
    "ENЃUıi&T[-ȗ˳IqWO-ȗ˳I+lIp˳Uiǋ˳U+eUÜ6ěMODI &AnAmInImUnUmƀvRuLvLmEmAImOmAUmKȒGȒømCȒJȒþmTTɱmDDɱmĿmTȒDȒNAmPȒB",
    "ȒMAmYAmRAmLAmVAm?nSAnAmHAmĘfƿԌqƀzRyLzLqEqAIqOqAUfÄŮkǨmȨAkğHAѦfDɼgѣfСȿfÄHUVAÜ650fčl$l:m[l@ԆÜ660cNGOLąBIRG",
    "A!ѩkҚBIRGAk>BIRGA!ѩkǝBIRGA!ѩkBIRGA!>ѩkҚBIRGA!ѩ+d>ѩkĠBIRGAy!>ѩkSWIRL BIRGAv!ѩ+b>ѩkèSWIRL BIRGA!>ѩÜ680aTAK",
    "RI &AoAnIoInUoUnEnAInOnAUnKȦGȦønCȦJȦþnTT˚nDD˚nĿnTȦDȦNAnPȦBȦMAnYAnRAnLAnVAn?oAnHAnRRAgÄŮlǨgƿӰrErAIrOrAUgÄ",
    "ɉlʬg&ARДƈgСȿÜ6C0gčm$m:n[m@ӧÜ7ěAHOM &KȒønAmTAm˳TAmPȒBAmMAmJAmŗmƧmRAmLAmSAmþmHAmAmDȒGAm˳GAmGHAmBHAmJHAm˳BA",
    "Ü71DfˏƗʵ]LA+bRA+bLIGAT=RAfƿrԌqEqAWqOqAIrMfÄKĎERÜ730fčl$l:m[l@ԆfЖnƐfÄ/ʮlECŖkRЍIgYMBOL VIf&CAmTTɱmDDɱmĿmĘÜ",
    "8ěDOѐ &AoAnIoInUoUnEnAInOnAUnKȦGȦønCȦJȦþnTT˚nDD˚nĿnTȦDȦNAnPȦBȦMAnYAnRAnLAnVAn?oSAoAnHAnRRAgƿӰrƀ+aRrErAIr",
    "OrAUgÄŮlǨnȨAlʬgСȿÜ8A0aWAR^ CITI ŋøA+bA+bWI+bYU+cƘO+bII+bUUɾ+bO+b^+bGA+bKOɾNY+bYUJ+bUCɾNN+bODD+bTTE+bNŪ+b",
    "DA+bAT+cM+bBU+bPU+bHIYO+cOLO+dRR+cAR+bSSUU+cII+bVIYOm/&øAzAzWIzYȷÓOzIIzUUzEzOz^zGAzKOzENYzYUJzUCzENNzODD",
    "zTTEzNŪzDAzAT+aMzBUzPUzHIYO+aOLO+bRR+aARzSSUȷIIzVIYOmčs$s:t[s@ԑmЖuƐuǙt˼uɚt˽uуtÅYtѠÜ8FFmOMaD|S AKURU &Auҭ",
    "EÜ909tOÜ90CtKиGиøtCиJAÜ915tþtĪÜ918tľvHAtĿtTиDиNAtPиBиMAtYAuYAtRAtLAtVAt?uSAuAtHAtĘtZAmƿAxIyIxUyUxEÜ937xA",
    "IxOÜ93BmÄŮrʄrHALƦAmɉmPREFIX%NASALÍmʵ]YAmIƯI]RAmʵ]RAmÄʬmDѣmGAP FĎERmʯTEXTÆÜ950mčs$s:t[s@ԑÜ9A0aNûINAǫI &Au",
    "ҭƀ+cRÜ9AAtEtAItOtAUtKиGиøtCиJиþtĪvHAtľvHAtĿtTиDиNAtPиBиMAtYAtRAtLAtVAt?uSAuAtHAtĘtRRAmƿAxIyIxUyUxƀ+gRÜ9D",
    "AxExAIxOxAUmÄŮrǨtȨArяrSIDDHAMmŷðmǋPRãƧMAĶ EÜAěZANABAZǹÃ &ArǋI+cUE+d+cE+cOE+d+cAI+dU+căIxѢr&KAzHAyGAzHAyø",
    "yCAzHAyJAyþyTTÓHAyDDÓHAyĿyTAzHAyDAzHAyNAyPAzHAyBAzHAyMAyTSÓHAyDZÓHAyZHAzAy-AyYAyRAyLAyVAy?zSAzAyHAyKSSAr",
    "ŚˏÆrÄɉwʄ+h!ѩ+c!ѩwŮwǨrCLUʶ-IƯI]&RAzŚ&YA+mRA+mLA+mVArIƯI]ŷÆrЃ=ŷÆrǣ TåGw?Dw>?DwāTåGrIƯI]ĕ-LIN%ŷÆrЃ=ĕ-LIN%ŷÆ",
    "rǥɯERÜA50aSOYOMBO &AiǋItUEutEtOuEtAIuUtƀ+bLoѢi&KӋӫҪӓpƔrHApDZApZHAqAp-AҬԉpKSSAiÄJӿnԁiCLUʶ-IƯI]&RA+fLA+f?+",
    "gAiŚˏƗG+dK+dNG+dD+dN+dB+dM+dR+dL+dSH+e+d-AiÄŮnǨiGEȶAŶiǥɯERiǣ TåGn?Dn>?DnPLUTAiŷÆ!MǾ(SUN(ǝFáE+oFáE+jiÐȶ]ǣ",
    "-1w2ÜAB0aCANADąЄICS NATTILIK HI+eI+dO+eO+dƓƘSHRI+gI+fO+gO+fA+gAtSPEvIvOvAaPAU CēHAU &PAtKAtLAtMAtDAtZAtV",
    "AtøtHAtGAtƈtSAtBAtCAtTиNAtPHAtRAtFAtŗtAtEtItOtUuAtIAtŚPzKzTzMzNzLzWzNGzYmɀ=T$ LĥxmSûHI ʉɗmɀ=T$ āFINALyFI",
    "NALmSûHI ʉSǏFINALtT$ Lĥxx āFINALyFINALmMID-LEVEL T$mʉSǏʐNTmMID-LEVEL T$ āFINȉbFINALmǒ-Fĺ=T$ Lĥ+cmʉɗmǒ-Fĺ",
    "=T$ āFINȉdFINALmʉSǏFINALÜCěBHAIKSUKI &AsӰrƀ+aRzLÜC0ArErAIrOrAUrKʠGʠørCʠJʠþrĪtHArľtHArĿrTʠDʠNArPʠBʠMArYAr",
    "RArLArVAr?sSAsArHAkƿAvIwIvUwUvƀ+eR+dLÜC38vEvAIvOvAUkÄʄpŮpǨrȨApяkDɼlѣkХ ɈkGAP FĎER-1v2ÜC50kčq$q:r[q@Ӥkˡr:",
    "s[r@s|rÕs×rÅrĈrĀsƐsǙr˼sɚr˽sуrÅYrѠkHǍREDS UƯÆÜC70aMARCHķŷÆiǣ ?Di&KҌGApøpCҌJApþpTҌDApNApPҌBApMApƔrHApDZApW",
    "ApZHAqAp-AҬ?q˚pAÜC92iǥɯ%&KѴGAzøzCѴJAzþzTѴDAzNAzPѴBAzMAzƔ+bHAzDZAzWAzZHÓAÜCA9zYAzRAzLAz?+aAzHAzAiƿAtItUtE",
    "tOiÄŮnʄÜD00cSAȨ GONDI &AwAvIwIvUwUvEÜD08vAIvOÜD0BvAUvKФGФøvCФJФþvĪxHAvľxHAvĿvTФDФNAvPФBФMAvYAvRAvLAvVAv?",
    "wSAwAvHAvĘvKSSAvJþvĶoƿAzŔIzȷUzƀÜD3AzEÜD3CzAIzOÜD3FzAUoÄŮtǨtʬtѦtHALƦAoɉoREPHApA-KýÜD50oču$u:v[u@ӣÜD60aGUN",
    "JŞ GONDI &AwAvIwIvUwUÜD67vŉAIÜD6AvOOvAUvYAvVAvBФMAvKФTФLAvGФDФNAvCФĪxHAvĘvJФľxHAvøvPФHAvRAvSAoƿAzŔIzȷUÜD",
    "90zEEzAIÜD93zOOzAUoÄŮtǨoɉoOMÜDA0oču$u:v[u@ӣÜEE0aMAKASǹ&KApGApøpPApBApMApTApDApNApCApJApþҬVApSApAi^KAiǋIt",
    "UtEtOiPǭIMB^iʯʮÜFB0aLISU &YHAÜFC0aTAɕ FЕ$ T[-HǍRED-û-TWØIït$-HǍRED-û-ÕTIïtÅIït˽-@THtʹTIïtTǙ-SEƤDpƕÅIïSv˽",
    "-@THSp$ TWØIïtҤ-1+d2tTØHtÅHpƕTWØIïSvҤSp$ FIFTHtȇtĸ-1y2pƕȇSpÈSCAL=FACś KIIZHgÄNELlCEVITUlAAZHAAKKUlUZHAKK",
    "UlMUUVUZHAKKUlKURUNIlPɝKKUlMUKKURUNIlKAACUlPANAMmONlVýAKANlPAAȨlKUZHIlVELIgWET CULTIVAȿgDRY CULTIVAȿgLûő",
    "SALTǱNőĶDIŖ]CREDITÍsˆERőCURRØőû ODDőSPØőTOTALőēǇSESSĩőǤT=FROMÍhIGN MUTHũYAlVAKAIYýAÜFFFgǟ ʯTEXTaCUNEIƃƗA",
    "qÀAxBADxңxHAxɖxLAǫƹxMUSHxSAGq2qBrÀê2yDUN3ƹyGȉaN2 ɰyHAyɖƹzȶyȐABySHćyUÏUÏUsGUNUr2sÀBAȐzңzMEÏENz?3zTAK4qDqK",
    "rÀEǽ2ySHǰÏGãqLrÀALyDIM2yGãyHAyKAD3zIyåyUSHrANrEPHqMARtÀåqNrÖANsƕTŒSsǲ NAGA OPǇ=ANÏNAGƘÃDråqPINqRADtÀKURr",
    "KABqSAL2rHs ZIDA ɰtKABA ɰtß ê TUG2ÖTUG2 TUG2ÖTUG2ǱP+cß ê+k ɦêÖêÖês2sGABpBArDrG3rHAR2rLsÖBALsAGrRsA2qIrÀA",
    "yǫyɖƹqUrÖBU AB+aUNsɦBUrLUGuÖBULUGrRs2pDArGs KISIM5ÀAÏMê+hMAR+gBAȐ+hI+gGA+iÏMê+hI+iR2+hUD+gHA+gIR+iÏLU+gK",
    "AK+gLA+hU+iÏMê2+iM+gNE+gPAPÏPAP+gSI+gTAK4+gU2ÏGIR2+hSHrMrRsA3t4qIrBrMsÀås2rNsƞSK]Uƹ DãrSHqUrÖDUsGUNUsåëG",
    "rBsÀć2s2rGsUDrHrNs3tƹyƹs4rR2pEqÀPAPrß E ƋÖƋq2rÀAÏHAÏDAyǫyMIySALzHEyUqDINqGIRqLqNrÀGAN2+c ɰyMEsɦENsOPǇ=EN",
    "sÃDqRENrIN2qSH2qZENtÀA+bÏLȉkÀLȉbN+aBAD+aDUN3ƹ+jƹ+aHƘƹ+aɖƹ+aKASKȉg ÃD+bU3+aLƘLÀLȉbI+bȷU2+bDpGArƹr2sÀAÏDAÏ",
    "HA+gHA+gIGŔB2 ɰÏTAB+aN+aSH+c2ÏGALzBAD+bRÏRÓUR+cÏRAzDÓI+bMÀSHȩUBzEL+bÏLÓN+bÀңzң+bR+aI+b4+cÏA+bR2ÏSUzHAÏLU",
    "Ïć2+bL+cÏLÓIÏLŔUB2zɖƹ+aSHÏHUÏêzKAK+bSKȉaID+cÏLȉaU3ÏANzLAzMEÏEN+aIzƋ+cÖƋzPAzSȉbR+aHE+cÏTUR+bID+aUMzTAK4zȷ",
    "D+bÏDUtß GA2rBAt ɦGABArDsÖGAD ǫÖǫrLs GADÖGAD ǫÖǫsAMrMrNs2t ɰuß GAN2uɦGAN2rRs3r?NqćTINwÀKURqIrÀEyUsɦGIr4s",
    "ÖGI4tɦGI4rDIMrR2tƹs3tÀAÏIGŔң+aIGŔLUÏIGŔPArSALsHt ɦGãuTŒS BAD+aTAK4vENUqUr ɦGUr2sÀKAK+cÀɖƹzƋzSALÏTUG2tGUN",
    "UrDsÀAÏKURzKURtß GUD LUGALrLrMsÀårRs7sUNtSHpHAr ɰsGUNUrLqIrÀê+b2yBADyDãyGADyKINyƋyåyUqUrB2tÀAN+aHȉaKASKȉ",
    "aLã+aUDrL2pIq AqBqDIMtÖIDIMƬR+eÃDqGrIsǊBtRItß ɖ ëRÖëR UDÖUDtGUNUqLrÀңr2qMrÀTAK4sɦIMsOPǇ=IMsÃDrINqNqRqSHp",
    "KArÀAzD+aÏKU3zSH2yBAD+aȐ+aRzIyEǽ2zSH2yGÓL+aN2 ĀȷR+bÏ?3ÏAzŔR2+aSHÏSAR+dɦGãzȷR7yɖzMyKAKzŔDyLIzUyMȩÏDU+gGI+",
    "gTEzŔÏƋUZyNEzUNyPIyRUySÓRzHÓȩID+aUzIGzUHURyTARyUz2zDzMUMÀPAzSHyZIr2s ɦKA2rBrD2s3s4s5tÖKAD5rKsÀɖƹrLsÀBADt",
    "ɦKALrM2s4rSKALv ȐABÀUÖȐABÀUwßƞSK]ȐABÀUÖȐABÀUqć2qIrÀBADyUzDrDrNrSALsHsIM5vÖKISIM5qUrÖHIÀê2 KUÖHIÀê2r3r4sЊ",
    "r7rLsƹrNrRs OPǇ=KURrǑ2qWU318pLArGABuÀƘÏDAÏHA+iǫ+iLȉcL+cN+cSH ZIDA ɰ+bBAD+cI+bDARɾN+bGǂR+cUD+eÏGUD+bHǂL+c",
    "IÀƋ+bɖƹ+cM+dÏHA+jLU+bKI+dN+cU3+dL+eÏHIÏA+bȐAB+cã+cU+dL+bME+dÏEN+cUSH+bNE+båÏSUM+dǰÏGãÏEǽ2+rɰ+dU2+fÏǑ2+cU",
    "M+bTAG+dK4+cEÏAÏSUÏNA+bU+cÏA+iUÏU+c2Ïê+cD+cSHvÃDtRuÀå+eÏSUMvGUNUzÖLAǫƹ årHǑrLsÀLALrMsÀKUR+cÏRUqIrLrMMU2r",
    "SHqUrÀBADr2sÀALzBADzć2+d ɰzңzHIÀBADzIMzKAD2+c3+dÏê+aIzLAÏê+bGABzMEÏENzNȩUzSIÏê+bK2ÏBUzTUG2uENUtɦLU2tOPǇ=",
    "LU2tÃDuHEëGr3rGALuÖLUGALwPǇ=LUGALvåëGrHrLrMsÖLUM+b ǫÖǫpMArÀTAK4sGUNUr2rHrRrSHt2qErSqIrNqUrÖMUrGsƹrNǥrRGU",
    "2rSHtÀÓKUR+aZAuß MUSH+dÀAÏNAuɦMUSHt3uÀƘÏDI+bDIvGUNUpNAr2rGAtĬVERTEDuTŒS Ǒ ɰuOPǇ=NAGAtRrM NUTĎUss2qErÀAyU",
    "DsåëGqIrÀEr2rMsÀң+bRÏңrNDA2vÀAN+dSH+fÏê+cGUD+cMEÏң+cNE+dUN+cå+fÏA AN+mSH+oÏê+cU2Ïê+dSHrSAGqUr11rNs LAǫÀǫ",
    "+fMê+fSȉiÖƋ LAǫÀSȉfUSHtɰtß ƋtɦƋ+f LAǫÖLAǫsUZu AB2ÀêGAB+fBI+fDUG+fGUD+fɖƹ+fKAD3+fLA+fNE+fSILA3+fU2vKISIM5",
    "ÀBI+k UpPArDrNrPqć2qIrÀAzByBIzUyEyIzByUz2sɦPIrRIGuÀKȉbUD+bZAvOPǇ=PIRIGpRArBqIqUpSArG NUTĎUssÀAzDU+bBzHAz",
    "KAK+aURzLUMzMIzƋzSȉaHIDzTABzU2+aB+aM+aR+aSHtßǔGtGUNUrLs ȐABÀê2rø2rRɅs3tÀÓBAD+aGã+aNȩǑ2+aTUR+aU+bÏAs6sB6s",
    "R2rEs HUtß å GADÖGAD ǫÖǫ+cTABÖTAB ǫÖǫsG9sNsSHu2uárIDtÀÓIMsMtÀÓBȉbULUG+aDIN+aǫ+aɖ+dƹ+aKUǑ2+aLUL+aMUG+aSAL",
    "sNIGsRt ɰuß ëRƬRÖBURsTArUsÖĠǑs2sBURqIrƹrGs4tÖSIG4 Ǒ2rK2rLA3qUrÖSUrDs2rHURrMsêrRs9pTAr ˧sTŒS HIyMIsGUNUrB",
    "sÖTAB NIÖNI DãÖDãtÃDrGsÀBIzGUDzå+bUzTUG2zUDrK4rRqErƹqIr ɰrLrRsÀTAK4tß TIR+b GADÖGAD ǫÖǫqUrG2rKrMrRsÖTUR ",
    "ZAÖZApUq GUDrU Urß UǱÖPA ǫÖǫySURÖSURyU ăß U ӝEDq2qBqDr KUǑ2sTŒS BADyMIyUÏUÏU+nƹsGUNUsåëGzÀBADrUGqMrÀȐABy",
    "MEÏDAy?3yUrBINrUMtÀKASKȉaPAqNrƹqRr ɦURsåëGr2sÀAÏHA+gNÓLzHAzƋzU2+bÏê+hBIr4rIs3rUsÀÓSHGABzĝzDUNzGA+bL+bN2 ",
    "ɰ+bR+aUzHAzIGŔM+aSHzKIzLUMzȶzPAzSHȩIG4zTUzUÏGUD+aD+aRUDAsDAuÀUqSHsÀAzKU+bRzTAK4sXs2sUMXqTUKIqZ3sÀKASKALr",
    "UpZAr ɰsÃDÀKURrGrMXqE2qIrÖZIr3rBsƞBA ɰrGrZ2qUr5sÀArBURrMpKAP EáITEpABÀƋr2ÀAqMARÀKUGpDAG KISIM5ÀU2ÏMês3qã",
    "ÏǑqUBÀåpEZENÀGUD+aåpGA2ÀANÏKAKÏÓSH2qE22qIGpHUSHpKAÀANåzSH3yGãzUDyHIÀê2yLUMyPAyǑLyTUyUR2pȐABÀGIqU2 åëGÀBA",
    "DtTŒS ć2ÏLALzǑpMćqUSH3ÀZApNA4qINs9sDA2ÀBȉcGIqU11ˉ˕pPć2 ˧qIR2pSAGÀɖƹpTI2pUMÀMEq U;12400kћICƗ: êy[ êx@ êy|",
    " êxÕ êy× êxÅ êxĈ êxƕDãx@ Dãy| DãxÕ Dãy× DãxÅ DãxĈ Dãx@ Uy| UxÕ Uy× UxÅ UxĈ Ux$ Gć2x: Gć2y[ Gć2x@ Gć2y| G",
    "ć2xÕ Gć2y× Gć2xÅ Gć2xĈ Gć2x$ GEǑx: GEǑy[ GEǑx@ GEǑy| GEǑx: ?R2y[ ?R2+iЊx@ ?R2y| ?R2xÕ ?R2y× ?R2xÅ ?R2xĈ ",
    "?R2x$ ?RUx: ?RUy[ ?RU+iЊx@ ?RUy| ?RUx?R2ÀGALÏDã+sȶx$ƬRUx:ƬRUy[ƬRU+hЊx@ƬRUy|ƬRUxT[Њ ć16+t21x@Њ LIMMU+u4+u",
    " A+vBxÕЊ ê9y×Њ Iȶ3+u A+vBxÅЊ USSU+u3xĈЊ ILIMMU+v3+v4+v Ax: ê ɰy[ ê ɰx@ ê ɰy| ê ɰxÕ ê ɰx$ BAN2x: BAN2y[ B",
    "AN2x@ BAN2+gЊy| BAN2+gЊxNɖDAȶ+dćx$ Eå3x: Eå3x$ ˞ Dãx: ˞S DãxНÕTHS Dãx$ ˞Њ Ax: ˞SЊ Ax$ ÅH ê+bҎêyLD ǭYRą$ ",
    "ÕTH+oȇyNE ҎGUR+bŐGURxEáITE $ ˞+f: ˞S+f˼+gɚx@ UЊy| UЊxÕ UЊy× UЊxÅ UЊxĈ UЊ;12470kǟƗƥǭYRąХǊVɢR+bĚƑ+bȃƑ+kżƑ+",
    "kʑƑ;12480kÄABÀƋ ɰyǑ2qDÀć2pBADÀDã ɰrHAR2ÀAB2+cNI+cZAqUÖBUÀNA2pDAÀTAK4rGÀKURqIMÀɖzU U Us2ÀUDqUGÀANSHȩSH+c ",
    "ȧ_zDIN+aUNzEǽ2zGÓI+bR2ƹ+bSHzHÓIzɖƹzKASKȉaUR+bǑ2+fÏKASKALzLAK-020+bM+cÀKUR+aUHÏGãzMê+aES+aIzNIzPIzSHȩIƹpE",
    "2ÀKURyPAPqǽ2 XqSH2 ɦć2qZķåëGÀê+iHI+iɖƹ+iLA+kL+iME+kS+iSUuTŒS SUpGA2ÀBAHAR2zDIMƹ+aUGÀɖƹ+jKASKALzERENzGA+b",
    "RÏDI+iNEzHAÏAzKUǑ2ÏKASKALzá+cÀKUR+aUHzMUSHzNE+bÏE2+hGIzëMzZIZ2rBAˉ˕qćTINÀUqãÀGã ɦGãqU2ÀɖƹrDÏGãÀTAK4pHA ɰ",
    "ƹqIÀêÖHIÀêpKAÀBUyKAyU U UzRpȐABÀZUÖZUrK-003u21v5u30u50v1u62u79ÖLAK-079ƹu80v1ÖLAK-081u92t130u42t210v9u20v",
    "5v8u38u65v6t343v7v8u83v4u90t441v9wÀGU+dɖ+dPAPÏLU3+mPAPÏLU3+dU2ÏBAu50v7u70u83u90v2v3v5t550t608u17wÀê+dBAD",
    "+dDUN3ƹƹ+dKU3+dLǂTAR+eE+dU2+eD+eRUDAu36u48wÀDUB+dGǂɖ+gƹ+dNI+dPAPÏPAPÏLU3+dSHćÏKI+dUD+eRUDAt724u49qU2ƹÀêt",
    "TŒS DãzHALzPAP+cÏPAPÏLU3zTAK4pMIÏZA7qUSHÖMUSHÀGA+kKAKpNĦA2ÀDIMƹ+cGã+dUL+cHI+cKć2+cLAK-050+cMê+cPAPÏPAP+c",
    "U+dÏU+dRUDApSAGƹÀHAtTŒS ENzå ȧ_zTAK4Ʌ6 ɰrEÖåtǲ HUB2yNAM2ySARrU2ÏDUGÀNIzE2ÀANqIÀTAK4pTAK4ÏSAGqUMÀңzƕDãpUR",
    "2ĬVERTEDtTŒS UDrUÀDý3zLAK-668+aU3pZA7qUÖZUÏSARr5ÀƕDã ɰ;12F90bYƜ-ȶOANƗCMʂw2w4ԓv10w1w2xBw3w5w7w9v21w3w4ԓv3",
    "0w3w4ԓv40w1w4w6w7w9v50w1w2w3w4w5w6w8w9v60w1w2w3w4w6w7w8w9v70w1w2w3w4w5xBw6w8w9v80w1w2w3w4ԓv90w1w2w4ԓu100",
    "w1w2w3w4w5w7w8w9v10w2w4u301w2;130ěEGYPTąHIEROGLYPH A00жx5ü6ʃȁ10xжü5x6xӃ2ȝșȁ3ȝx2ü3xҨȁ40ü1x2ü3ü4x5ü6ȁ5ȝșȁ6",
    "ȝșȁ70uB00жx5ü6Јx9uCʂx2ʃyCx3xҨȁ10ü1șȁ20xжuDʂșЈü9w1ȝșȁ2ȝșxӃ3ȝü2x3x4ü5x6ȁ4ȝșyAЈü9w50ʃyCӏyIx1x2ü3x4ü5x6ȁ6ȝșx",
    "7ʃyCӏuEʂșЈü9yAw1ȝșüӃ20ü1șЈü9w30xжü6ЈuFʂyAșȁ1ȝxӇȁ2ȝyAșȁ3ȝyAșx7ü8ü9w40xжx5ü6üӃ5ȝʃyCx2x3uGʂșü7ʃx8x9w1ȝyAșȁ2",
    "0ü1șyAȁ3ȝșüӃ4ȝx2x3ü4x5ü6ȁ50xжuHʂșyAЈuI00жx5ü6Јx9yAw10ü1ü2x3x4x5uKʂșЈuLʂx2ü3xҨyAЈuMʂʃxӇȁ10ü1x2ʃyCӏx3x4x5ü",
    "6üӃ2ȝx2ü3x4ü5x6Јü9w3ȝü2x3ʃxҨȁ40üжuNʂșȁ1ȝșЈʃx9w20xжx5ü6ȁ3ȝx2x3ü4ü5ü6xӃ4ȝx2vLʂРzAy6ҡ10y1РԒx20vU00Ҙx10zAy1z",
    "AРy6y7y8zAy9x20y1y2zAuOʂü2x3x4x5ü6ԯȁ10ʃyCx1șЈx9yAw20üжü5ü6Јx9yAw30ü1xӇʃyCyDȁ4ȝșȁ50ʃx1uPʂüӇȁ1ȝuQʂșx7uRʂx2",
    "ü3ʃxҨȁ10ü1șyAȁ2ȝșЈx9uSʂx2ü3xҨyAȁ10xжʃx5x6xӃ2ȝșʃȁ30xжx5ü6ȁ4ȝșuTʂxӇx7ü8ü9yAw1ȝyAșyAȁ2ȝșȁ3ȝx2ü3üҨuUʂșʃȁ1ȝșȁ",
    "2ȝxӇЈx9yAw3ȝx2ü3xҨȁ4ȝx2uVʂʃyCӏyIx2ü3xҨx7ʃx8x9w1ȝʃyCx2ʃx3xҨȁ20ʃyCӏyIyJyKyLx1xӇЈü9yAw30ü1üӇxӃ40yAuWʂxӇЈx9y",
    "Aw10üжü5x6x7ü8ü9w20xжü5uX00жʃx5x6yAЈyAuYʂyAșЈuZʂx2ʃyCyDx3ʃx4ü5ü6ȁ10xжx5ʃyCӏyIx6ʃyCӏuAAʂРy6y7zAzBy8y9x1ʷ2",
    "ʷ30y1y2;13430uĚɯERuĞɯERuINSERT ȧǏǤT+eɴǤT+eǏƌ+eɴƌußLAY ȫuBEGēSEGȆuƌ SEGȆ;144ěANATOLąHIEROGLYPH A00Ҙx10zAy",
    "Ҙx20y1Рy6zAҡ30yҘzAx40y1zAРzAy6zAzBҡ5ʷ60y1Рy6zAzBzCҡ7ʷ8ʷ90y1Рy6y7zAy8zAy9w100zAy1zAy2zAy3y4zAzBzCy5zAzBy6",
    "y7zAzBzCy8y9x10zAzBy1РzAy6ҡ20y1РzAy6ҡ30y1РzAy6ҡ4ʷ5ʷ6ʷ7ʷ8ʷ90yҘw200y1y2zAzBy3y4y5ԒzAx10y1РzAy6zAҡ20y1РԒx3ʷ",
    "4ʷ5ʷ60y1РԒx7ʷ80yҘzAx90y1y2y3y4zAy5y6y7y8y9zAw300yҘzAx1ʷ20yҘzAx30y1y2AzBzCy3y4y5y6zAzBzCҡ4ʷ50yҘzAx60y1y2y",
    "3y4zAy5y6y7y8zAy9x70y1zAРy6ҡ80y1zAy2y3 RAđRIzAy4y5y6zAҡ90y1y2y3 Åy4y5y6y7y8y9w40ʷ10 BEGēLOGOȎÆzA ƌ LOGOȎ",
    "ÆyҘx2ʷ3ʷ4ʷ50zAy1РԒx6ʷ7ʷ8ʷ90y1Рy6y7w50Ҙx1ʷ2ʷ30"]

/-- Further scripts, notation and pictographs, from U+16000 on. -/
def furtherNames : List String :=
  [";168ěBAMѸ&PHASE-A NGKUE MFONvGBIEE FONvPŝMFŝPIPAEMGBIEE+kBAvNAA MFONvǑENǑETvTǰ MFONvNZA MFONvSHĦAǱ NJIvP",
    "ONǱ NJI PIPAEMGBIEE+mBAvMAEMBGBIŉTUƨEMBAvNG^UvMAEMVEUXxNSʝwVǬøMvSEUþMvNTOQPENvKEUKEUTNDAvNKĦIvSUUvNGKUEN",
    "ZEUMvLAPAQwET KUTvNTAP MFAAvMAEKEUPvPA?EvGHǬRAEvPAM?EvMŝƶǬTvNZUNȮUTvU YUQ NAEvGHǬGHǬvNTAP NTAAvSISAvMGBA",
    "SAwEUNJOMNDEUQwOOMPUQvɟAvPA LEERAEWAvNDA LEERAEWAvPETvMAEMKPENvNIKAvPUPvTʝPvLʝPvSONJAMvTEUTEUWENvMAENYIv",
    "KETvNDA^GǬTvKUOQvMOOMEUTvǑMvLOMMAEvFIRIvROMvKPOQvSOQvMAP PIEETvëRAEvNTAPvɔQ NǑT YUMvNYIT MĥKǬQvPAýEvNKAý",
    "EvUNKNOWNvƶENvMAESIvNJAMvMBANYIvNYETvTǬNvSOTvPAAMvNëŉMAEMvNYIvKAQvN?vVŉLUvNENwAQvMBAQtB NǑETvTUƨEMGBIŉSI",
    "EEwET TUvLOM NTEUMvMBAƨELŉKIEEMvYEURAEvMBAýEvKAMvPEEëvYAFU LEERAEWAvá NǑT þMvNTIEE åUOQwDU NJAAvGHEUGHǬM",
    "vPITvTU NSIŉåT NJAQyʝQTUvMFŝTǬQwBIT MBAAKETvNYI NTEUMvKEUPUQvGHEUGHENvKEUY˰LAANAEvƂUMvVEUMvNGKĦI MVOPxGE",
    "U MBUvWʝTvSAKǬvTAAMvMEUQvƶUOQ+b ǩvMFIYAQvSUEvMBEURIwONTIĔvþEMAEvPUøAMvMEUT ƶEETvF˰MBUOQvFŉKǬMvMA NJǬNÓUQ",
    "AvLETvƶAAMwSENvMAvKIQvNGOMtC NGKUEƨEMBAwZAvYUMvW^KUOQvƶENwDǬREEwGKAQvGHýEvMBEEKEETvGBAYIvNYIR MKPýQȮUNwT",
    "U MBITvMBEUMvPIRIĔvNDOMBUvMBAA CABBƙ-TRŉKEUSHǬPvGHAPvKEUKAQvYU MUOMAEvNZEUMvMBUEvNSǬNvMBITvYEUQvKPýQwAAv",
    "S˰NDIDAvTAA?EvNJUEQvTǰ YUEvSʝTvƶUAķþMvV˰NANSANAQvMA KǬRIvNTAAwGGUONvLAPvMBIRIĔwGBASAQvNTEŪBAvTEUT˰ƶUMvFU",
    "EvNDEUTwSAxHAQvBŪvVǬPENvMBERAEvRUvNJAEMvávTITʝPvNSUOT NGOMwJEEŉKETvƶUvMAESIwBʝMvLUvKUTvNJAMwGOMvWUPvƶUEE",
    "TwSOMwĀvKUOP NKAýEvNSUNwDAMvMA NSIŉYAAvNDAPvǑEQwETFONvMBIwAEMBAwBANYIvKEUS˰MB˰KEUMvMBAA PŏETvYUWOQvNJ˰MI",
    "EEwʝvëQvKķLAWzFATIGUEvøQwAQvLIQvPINwENvTETtD MBUOvWAPvNJIvMFONvNJIŉLIŉNJEUTwåEwGGAAMAEwYAMvWʝNvNGKUNvSHŉ",
    "NGKAPvKǬTMEUNvTEUTvSHǬvNJAPvSUEvKETvYAEMMAEvKUOMvSAPvMFEUTvND˰MŴERIwEUTvSǬQvYENvNJǬMvKEUOT MBʝvNGKEURIvT",
    "UvGHAAvNGKYŉFEUFǬTvNDŉMGBOFUMvLǬPvNDONvŻIwGBEUNvPUUTvMGBIEEwFOvLUMvNSIEEPvMBAAvKWAETvNYETvTǬNvSOTvYUWOQv",
    "KEUMvRAEMvTEEŉNGKǬQvMFǬvNSIEETvKEUPvPIPwEUTAEvNYUEvLETvƶAAMvMFIŉƶWAENvYUOMvPAPvYUOPvNDAMwTEUMvSʝvKUNvƶEU",
    "XxKIŉTUOTvMEUNvKUQvNSUMvTEUNvMAENJETvƶAPvLEUMvƶUOMwǑTwJUEQvGHǬvKUvRķȴvTAEwOQvNYIvRIIvLEEŉMEEEEwvSUUvMUvë",
    "Ix˰KYŉNUvǑvNTŉPŉNIvɔQvPUQvMVOPvLOQvRķMUCHvTIvNTUUvMBAA S×vSAQvFAAtE NDAPvTǾvMBEUMvLAPvVOMvLǾvPAAvSOMvRAQ",
    "vNǑOPwDUNvPʝvTAMvNGKAvKP˰WUOvSŉƶǬTvPAAMvTOOvKUOPvLOMvNëEEwGOPvMAEMvNGKEUXxOQwǑEvRIMGBAvNJ˰PEEMvSAAvƶURAE",
    "vMGBAvGH˰NGKǬMwJAEMLIvMAPvȀTvƶEEEEwDIQvTAķNTEUMvʨvPUMvNDAA ГмwGGʝ?E þMvYIŉGHEUNvTʝvYǬvPOvTUMAEvKǬvSʝNvTǬ",
    "QvVǬvW˰LAAMvPUvTAAQvGHAAMAEvNGEUREUTvSHǬQvMGBENwBŉNZAQwKOMvGBETvTUMvKUETvYAPvNYI CLEAVERvYITvMFEUQvNDIAQ",
    "vPIEEQvYUEQvLǬMvFUEvGB˰NGKUPvKETvMAEvNGKAAMIvGHETvFAvNTUMvPEUTvYEUMvƶǬwYI лwZUQvPǾvMIŉFUETvNAEvMʝvGHǬvFU",
    " IvMVIvPUAQvNGKUMvKUTvPIETvNTAPvYǬTvƶUPvPA PEOPLEvFU CĺwOMvNJŉAvTOQvOvIvLAQvPA PLURALvTAAxQvNDAA MY ȘSEv",
    "ëQvY˰NGʝvYʝNwOQ SWIMM,zCßwUQxNvK˰P˰NJEE EPOCHvPUEvWUEvFŉVŉLUvMIvREUXwAEvNGʝTxAvɔyQvFU REMEDYvNAvPIvLOQvK",
    "OvMENwAxQvTEUvKIvŻvĀvFAQvGHOMtFƞvUvKUvŉRŉTAEvNYIvLAvRIIxŉMEEŉTAAvNDAAwJAEMvMvSUUwHIIwIw˰KYEEwETvNʝxwJʝvY",
    "OQvǑvYAvN?vP˰NTŉWUEvPŉRUvNIvR˰KENvNGKWAENxGAvɔvPʝvFOMvWAvLIwOQvKOvMBENvRENvMAwOwBAAvTETvKPAvSAMBAvVUEQ;1",
    "6A40aMRO &TAlNGIlYOlMIMlBAlDAlAlPHIlƈIlHAOlDAIlCHUlKEAAElOLlMAEMlNINlPAlOOmlROlëlÌAlEAlWAlElKOlLANnlHAIl",
    "RIlTEK;16A60ečk$k:l[k@ԇ;16A6EfɼfѣaT^SA &OӵAӵVӵEӵIӵUӵAWZqCqQqXoUIZqCqQqXoŚNGoāUEXoŹUEZuAWXoUECqZqQqXpIUZr",
    "CrQrXoMӵKƼGAoøoSAoYAoWAoPAoþoPHAoBAoMAoNɱoLAoHTAoTAoDAoRAoNHAo?oCAoƔoGHAoHĪoƧoXAoFAoDHAoŗoZA;16AC0hčn$n:",
    "o[n@ԅ;16AD0aBǭA VAH &ENNIrKArSErFArMBErYIErGAHrDHIIrKPAHrJOrHWAHrWArZOrGBUrDOrCErUWUrTOrBArVUrYEINrPArWA",
    "ľrArOsOrUrEEsrI;16AF0kȄơT$uŀT$uMID T$uǒ-MID T$uHIGH-ŀT$kƠ;16BěPAHAWH HMĥ Ю KEEBwVuIBvVuAUBwVuUBvVuEBvVuA",
    "IBwVuOOBwVuAWBwVuUABwVuOBvVuIABwVuABvVuWBvVuAABwVnˏ VAUxNƔUxLAUxHAUxNLAUxRAUxNKAUxQHAUxYAUxHLAUxMAUxŗUxN",
    "ŗUxHNAUxPLHAUxNƧUyAUxAUxXAUxCAUnǣ CIM TUBwSOwKESxHAVwSUAMwHOMwTAUMnÄVOS THOMx?B CEEBsCIM ùEMsVOS THIABwF",
    "EEMsXYEEM NTXIVyʈyTOVyFAIBsVOS SEEVsMEEJ SUABsVOS NRUAsIB YAMsXAUSsCIM TSOVȊG;16B50nčt$t:u[t@Һ;16B5BnЖSu",
    "HǍREDSuĀÑSuMĎĩSuHǍR%MĎĩSuTķBĎĩSvRĎĩS;16B63nÄVOS LUBsXYOOsHLIs˞-STƙ HLIsZWJ ƧJsHNUBsNQIGsXIABsNTUJsAVsTXH",
    "EEJ CEEVsMEEJ TSEEBsTAUsLOSsMUSsCIM HAIS LUS NTOG NTOGwCUAM TɔOJwTXWV+a CHWVwPUB DAWBwNıʺS;16B7DnCLANƗTå",
    "EJxYEEGxLISyAUJxXYOOJxKOOxHAWJxMUASxTHOJySABxPHABxƈBxHAMxVAJxFAJxYAJxTSWBxKWMxVWJ;16E40aMEDEFAIDRēŋM+bS+",
    "bV+bW+bATIU+bZ+bKP+bP+bT+bG+bF+bI+bK+bA+bJɾ+bB+bC+bU+bYU+bL+bQ+bHP+bNY+bX+bD+bOE+bN+bR+bO+bAI+bYm/&MzSzV",
    "zWzATIUzZzKPzPzTzGzFzIzKzAzJzEzBzCzUzYUzLzQzHPzNYzXzDzOEzNzRzOzAIzYmčs$s:t[s@ԑmЖtEL×tјuHIRŘt@ŘuIFŘtÕŘu×Ř",
    "tÅĔtĈŘmʟ$ ˳ƃs: ˳ƃt[ ˳ƃmĤmƠmǢAIVAmEXCáAĹOH;16F00bIAO &PAmBAmYIǱmɄmMȒARДMAmFAmVAnFAmTAmDAmYI ĪqAmĪmľmNȒYI ",
    "ĿmARДNAmNNɱmLAnYAnHAoYAmTLHAmDLHAmTLHYAmDLHYAmKAmGAmYIƞmQAnGAmNGɱmARДømHAmXAmGHɱmTSSAmDZZAmNYɱmT?mDZHAmY",
    "I T?pDZHAmREƃ%T?m?nSAmZHAn?mƔmDZAmYI ƔmSAmZAnSAnZAoSAmARДZZAmZZYAoSYAmWAmAHmHHAmBRImSYImDZYImTEnSEmRTE;1",
    "6F4FfÄˏ ʖĝf&NASũZ÷fÄASPIR÷kREƃ%Ӟ,tASPIR÷fƿrArHHrNsGqOrOqWOrqErNsGqOEYqIrAsNtGrOrErIrUrNGqUrAsNtGrUrEIrNG",
    "qYrIqAEsEqERRqRū%ERRqERqRū%ERqAIqEIqAUqOUqNrGqUOGqYUIqOGrERqVWqIGqEAqIĥqUI;16F8FfT$ ÁkǏÁkABOVEkȏf&T$-2r3",
    "ԨmREƃ%T$-1+a2+a4+a5+a6+a8;16FE0aT^UT IÐAŶaNUǑ IÐAŶaƥCHǡSE ĊÆmIÐAŶaKHITĜ/ɡFĎER;16FF0aVIETNAMESE ˳ǅD,Æ CA+",
    "iNHAY;188ěT^UT ʗ$NT-00ԣs1Č2Č3Č4Č5Č6Č7Č8ČӬ9r10Č1Č2Č3Č4Č5Č6Č7Č8ČӬ9r20Č1Č2Č3Č4Č5Č6Č7Č8ČӬ9r30Č1Č2Č3Č4Č5Č6Č7Č",
    "8ČӬ9r40Č1Č2Č3Č4Č5Č6Č7Č8ČӬ9r50Č1Č2Č3Č4Č5Č6Č7Č8ČӬ9r60Č1Č2Č3Č4Č5Č6Č7Č8ČӬ9r70Č1Č2Č3Č4Č5Č60t1t2t3ԫ;1AFF0aҟ &ȶ",
    "NĜT$-Ԝ;1AFF5+c7+c8xNASũZ%T$-1+m2+m3+m4+m5;1AFFD+m7+m8;1B000qARДEaҰ&ARДYEbØAIGANA &A-1u2u3uWOsI-1u2u3u4sU",
    "-1u2u3u4u5sE-2u3u4u5u6sO-1u2u3sKA-ɻӊv10w1vKEtI-ɻv7v8tU-ɻv7tE-ɻtO-1v2v3vKIsSA-ɻv7v8tI-ɻtU-ɻv7v8tEҏv5tO-ɻv",
    "7sTAҏtI-ɻv7tUҏvTOtE-ɻӊtO-ɻvRAsNA-ɻӊtI-ɻv7vTEtU-1v2v3tE-ɻvKOtOҏv5sHA-ɻӊv10w1tI-ɻv7tU-1v2v3tE-ɻv7tO-ɻv7v8s",
    "MA-ɻv7tI-ɻv7tUҏtE-1v2vMAtO-ɻsYAҏv5vYOtUҏtO-ɻsRAҏtI-ɻv7tU-ɻtEҏtO-ɻsWAҏv5tIҏv5tEҏtO-ɻv7sN-MU-MO-1+a2bIRAGA",
    "NA &ARДWUaҟ &ARДYIzEyWU;1B150aҰ&/WIxExO;1B164aҟ &/WIxExOwN;1BCěDUPLOYĜ&HqXqPqTqFqKqLqBqDqVqGqRqP NqD SqF",
    " NqK MqR SqTHqSLOĜDHqDHqKKqSLOĜJqHLqLHqRHqMqNqJqSqM NqN MqJ MqS JqMǗqNǗqJǗ+aSĬƖ û*qSǗ+aÊqM SqN SqJ SqS S",
    "qM N SqN M SqJ M SqS J SqJ SǗsNt SqS Tt RsPt RqT SsR SqWrHr RqS NsMqK R SqG R SqS Kt RqAqSLOĜOWqOArqAOUq",
    "IqEqIEqŹIqUIqEEqSLOĜEHqROƣąIqSLOĜEEqāIqYEqUqEUqXWqU NqāUqROƣąUqUHqSLOĜUqOOHrWrUqWArOrIrEIrOWqNAS]UwOwIwA",
    "qġNēANyMqSLOĜENwANwONqVOCALîM;1BC70jAFFIX <ĞɣƦpMID ĞɣƦp.ĞɣƦpŀĚɣƦpMID ĚɣƦpơĚɣƦpAĪCH%ɣƦy_-TO-.ɣƦyT^Ø+aILyE",
    " ĊyI ĊyT^Ø Ċ;1BC80pơǖuTѺ ǖuöuāöuƛuÇuäuʭuǠ;1BC90pŀǖtTѺ ǖtötāötƛtÇtätʭtǠtÛ;1BC9CjÄO!ĢjTHŏ &SŬCśj>ǣjǟ ǻNɮ Ơ",
    "aSǮTĳ ƃȧ&ßLAPrэINU=ßLAPrŭSTEPrďSTEP;1CFěZNAMENNY Ȅǣ GORAZDO NIZKO S цMǦ_yNIZKO S цMǦ_yƔTAǦ_yGORAZDO NIZK",
    "OǦ_yNIZKOǦ_ySREDNEǦ_yӯǦ_yPOVYåǦ_yVYSOKOǦ_yӯ Sӻ_yPOVYå Sӻ_yVYSOKO Sӻ_yGORAZDO NIZKO S цMǦÁyNIZKO S цMǦÁyƔ",
    "TAǦÁyGORAZDO NIZKOǦÁyNIZKOǦÁySREDNEǦÁyӯǦÁyPOVYåǦÁyVYSOKOǦÁyӯ SӻÁyPOVYå SӻÁyVYSOKO SӻÁyƔTA S цMyӯ S цMySĶ",
    "NNO ӯyPOVYå S цM+hĶNNOyVYSOKO S цMyӯ SĶNNOyGORAZDO VYSOKOyZELOyONyRAVNOyTIKHéyBORZéyUDARKAyPODVERTKAyLOM",
    "KAyKUPNézACHKAyZEVOKySKOBAyRAZSEKAyKRYZHǦ_;1CF30tTON]R^EÆ MȪHNO+kSыO+kTıыOtǣ ZADERZHKAyDEMţVENNY ZADERZH",
    "KAyOTɣHKAyPODŗëE+i!ȻyCHêKA+f POLNéyOBLACHKOySOROCHYA NOZHKAyTOCHKAyDVOETOǻEtAĪCH=ĚOMETtǣ ɥ%OMETyKRYZHtìT",
    "ON]R^E ĦɺśjPRIZNAK ʖLEVEL-2+g3+aDIžĹFLIP+aKRYZH+aROG;1CF50jNEUME KRYUKu TIKHYpPýKLITpDVA V ùLNUpKLYUCHpZ",
    "ANOZHEKpɗIƔx S OCHKOMpġEVODKAy ӮpɗIƔ!SOROCHYA NOZHKApùLYUSTKApPALKApїépGOLUBǻK BORZYzTIKHYzMȪHNYzSыYzTıы",
    "YpVRAKHIYA ƜSTéyMȪHNéySыéyTıыéyKLYUùVé ƜSTé+kMȪHNé+kSыé+kTıыép>їépăùLYUSTKApDERBIƔpƈɕOpCHêKApPODŗëEpSKAM",
    "EYƔ MȪHNézSыézTıыAYÓIKHépDEMţVENNY KLYUCHpSKAMEYƔ KLYUùVé Sыé+gӮ+gVé TIKHézDVOEùLNé ƜSTé+mSыé+mӮ+mKLYUùV",
    "éqLOZHITIEy S їOYzZAKRYTOEzS цMpKRYZHpROGpFǰpKOBYLApZMEYƔpȬTYAv S їOYyцMyїOY I цMyцM I їOYwZAKRYTé+f S ї",
    "OYwSȊGOMyDVUMYA їYMIyїOY I PODŗëEMpPOLKULIZMYpȬTYA ӮrRELA ƜSTéwMȪHŊIKHéwцVéwPOLUѮéyVODNéwӮwKLYUùѮAYǂӮwTI",
    "KHé PUTNéwDVOEùLNé+fOцVé+gѮé+fé KLYUùVé+fOѮé KLYUùVéwGROMNé!ЂїAYÓOѮé!ЂїAYÓNAYÓOѮé+k!>їé+bцVé+l ѮépMEǻKv ",
    "ѮYwKLYUùVOY+dѮY+dNEǇTOYANNYpʏELA TRYASOGLASNAYƘѮAYƘʏELNépOSOKAu SыévTıыévKRYUKOVé SыéwLYUùVé Sыé+hӮpʏELA",
    " KRYUKOVé+g Ѯé+hGROMNé!Ђїé+lOѮé!Ђїé+lNé+lOѮé+v!>їé+mцVé+w Ѯé+hTRYASKApKUFIɇpOBLAKOpDUDApNEMKApPAUKȜ0ěBYZ",
    "Ʀǡ ѡ]ǢЉzDASEIAzƲzOXEIA EKFOƯIKоfDIPLIzVAREIA EKFOƯIKоgDIPLIzKATHIƉzSYRMATIKIzPýKLITIKIzYPOKɀIS+iǊPLIzKRE",
    "MAƉzAPESO EKFOƯIKONzEXO EKFOƯIKONzTŬIAzKØȍTAzAǇȵFOS+jǊPLIzSYNEVMAzTHǰzOLIGONƮИzGORGONƮИzȋzŗɕONzVATHYzISO",
    "NƮИzKØȍƮИ+gTAƮИzSAXȍTAzƂICHONzȬVROS APODEXIAzOXEIAIƮИzVAREIAIƮИzAPODERMAƮИ+cÌMAzKLAɇzREVMAzPIAɇƮИzTINAGM",
    "AzANAżǻɇzSEISMÓYNAGMAƮИ+hMǯ ȬVROUzOYRANIɇƮИzÌMAzLEMOIzDYOzżÓESSERAzKRATȍTAzAPESO EXOʧzFTǮAƮИzIMIFTǮAzȵMI",
    "KONƮИzKATAVA ȵMIKONzPELȌоaSIFISTONzKONTEVMAzCǮEVMAƮИzRAPIɇzPýKŴɇƮИ+eLITIKIƮИzIŗDINzNANAzPǯɇzKONTEVMA ĺOz",
    "ȵMIKŝĺOzSĶGGIɇTAzGŦTHIɇTAzISONʧzOLIGONʧ+aXEIAʧzPǯƉzKOUFIɇzPETȌOKOUFIɇzKRATIMOKOUFIɇzPELȌONʧzKØȍTAʧ ANO+g",
    "ʧ ANOzYЉzAǇȵFOSʧ+iI SYNDESMOSʧzYPORROIzKRATIMOYPORRǾzELAFŦzŗɕIzMIKRŝISONzVAREIAʧzPIAɇʧ+aSIFISTONʧzOMALON",
    "zдKENOMAzLYGIɇzPýKLITIKIʧ+eŴɇʧzEÐŝPýKŴɇzKYLIɇzдKENOKYLIɇzȵMIKONʧzEKʏEPTONzSYNAGMAʧ+bRMAzCǮEVMAʧzEPEGERMA",
    "zSEIɇʧzXIRŝKLAɇzȵMIKOPSIFISTONzPSIFISTOLYGIɇzȵMIKOLYGIɇ+gPýKŴɇzPSIFIɗýKŴɇzȵMIKOSYNAGMAzPSIFISTOSYNAGMAzG",
    "ORGOSYNÌTONzARGOSYNÌTONzETEŦƮGOSYNÌTONzOYRANIɇʧzÌMATISMOS ESO+mXO+e APLOUN+cSƞI APOÌSzKATAVAɇzƌOFONONzYF",
    "ENƞTO+eANOzȬVROSzKLAɇ ANOzDIPLIƮИzKRATȍƮИ+iLLO+hNEOzAPODERMAʧ+bLIzDIPLIzżPLŔEĶPLIzKOŦISzLEIMMA ENOS CHŦO",
    "U+gDYO CHŦоgżŝCHŦоhESSARŝCHŦоgIMISEOS CHŦOUzGORGONʧ ANO+gƂEƉGMENONƮIʶA+uDEXIAzDIGORGоh ƂEƉGMENONƮIʶAƞTO+",
    "+fANO+wDEXIAzżGORGONzARGONzIMIDIARGONzDIARGONzAGOGI POLIƮGI+fARGOÐI+iI+fMEżA+hSI+fGORGI+jOÐI+fPOLI GORGI",
    "zMARTYRIA ƜTOҞiĺI ƜTOҞiDEYÐOҞiĺI DEYÐOҞiżTOҞlFONIAS+jǯRTOҞrLEGETOҞiLEGETOҞiPȐIԦzISAKIAɽLOUS ICHȍTOSzAǇȵF",
    "OIɽLOUS ICHȍTOSzFANEROSISɽĶFONIAS+jŻOFONIAS+jDIFONIASzMARTYRIA VARYҞiƜTOVARYҞjȐIOS TǯRTԦzGORTHMIKŝN APLO",
    "UN+mDIPLOUNzENARXISƞI FTǮA VOUzIMIFONоdTHOŦzFTǮAƮИ DEYÐOU ICȘ+gDIATONIKIǱ+qNANA+gNAOҞgDIATONIKIǊ+gSKLIŦǊ",
    "ATONONǊ+gDIATONIKI KE+qZO+qNIƞTO+tANO+gMŞKŝCHROMAǊFONIAS+vŻOFONIAS+aHśA SKLIRŝCHROMA VASIS+aTǮA SKLIRŝCH",
    "ROMA SYNAFI+gNENANOzCHROA ZYGOS+fKLITоfSPATHIzFTǮA I YFESIS TǯRTIMORIоgENARŻIOS дFONIAzYFESIS żTIMORĩzDI",
    "ESIS żTIMORIоhǯRTIMORIоgAPLI DYOԃŻOȎMOSɽSSERAԃDIȎMOS EXԃżȎMOS OKTO DODEKATAzYFESIS APLI DYOԃŻOȎMOSɽSSERA",
    "ԃDIȎMOS EXԃżȎMOS OKTO DODEKATAzGENIKIǊESIS+gYFESISzDIȌOLI APLI MIKRI+oEGũ+iDIPLI+iÌSEOSzSIƣSIS ÌSEOS+pǊS",
    "IMOU+qTɀIMOU+rEĶSIMOU+iARSEOS+oǊSIMOU+pTɀIMOU+qEĶSIMOUzDIGRƒ GG+bFTOGGOS OUzƉGMAzARKTIKOǱ+hVOU+hGA+hDI+h",
    "KE+hZO+hNIzKØȍTAʧȮSO+gʧȮSO+gTAʧƞTO+gʧƞTO+aLAɇƞTOzGORGONʧƞTOȜ1ěѡ]ǢȖŢäp>ĝäpŚĝäpЌŚĝäpŧ%ĝäpŹĝäp<REPƸÍp.REPƸÍ",
    "qEPƸɑpD]SEGNOr CAPOpSEGNOpCODApREPƸ%FIGURE-1+f2+f3pFERMATAwÊpBRƸHÆpCAESURApBȪEtKETp$-ȡȬFFp:-ȡȬFFq[-ȡȬFFp",
    "@-ȡȬFFq|-ȡȬFFpÕ-ȡȬFFtʏ=FRETBOğp@-ʏ=FRETBOğpG CLEFv OĪVA ALTǂBǭApC CLEFpF CLEFv OĪVA ALTǂBǭApDRѸCLEF-1z2Ȝ",
    "129p˥EȮASURE Rţp>?RPwFLATpFLATŎuÈpNATUR]UPxÈp?RPŎvÈpҎT$ ?RP+cFLATpCOMMŝTŒqUT TŒpOĪVA ALTAwBǭApQUĦɿSȍ ALT",
    "ƘBǭApMULTI RţpWHOťRţpŐRţpҎRţpÅH RţpҤ RţpTǙ-SEƤD Rţp˽-@TH RţpȈ TƐ-ÅH RţpXĐEŷpǲĐEŷpȗXĐEŷpÃĐEŷ Ǆ+fǐpôĐEŷ ďǄ",
    "+kǐ+h<Ǆ+mǐ+h.Ǆ+nǐ+hŭǄ+mǐ+hď.Ǆ+qǐpMǾĐEŷ Ǆ+dǐpô-RūĐEŷ ŭǄ+sǐpƺĐEŷpVOIDĐEŷpŊEŷ ǐqULLĐEŷpCLUʶĐEŷ Ǆ+gǐpļpWHOLE",
    "ĐEpĸĐEpȇĐEpÅHĐEpҤĐEpTǙ-SEƤDĐEp˽-@THĐEpȈ TƐ-ÅHĐEpȄSTEM+aPžHGES^ STEMzTREMOLO-1+h2+h3pF,ER%TREMOLO-1+g2+g3",
    "pȄAUGȆ÷ŨzFȐ-1+e2+e3+e4+e5pBEGēBEAMpƌ BEAMpBEGēTIEpƌ TIEpBEGēSLURpƌ SLURpBEGēPHRASEpƌ PHRASEpȄACеzȬCCATOz",
    "ɰTOzȬCCATISSIMOzMARCATO+g-ȬCCATOzACе-ȬCCATOzLOUREpARPEGGIATOŎ+aÈpȄDOITzRIPzFLIPzSMǌzBƌz>TĥUEzǝTĥUEpǽʹZûO",
    "pǥITOpZpPIANOpMEZZOpʹTEpCıCƌOpDECıCƌOpGȪEĐE ˙+aNO ˙pTRqURNpĠБpБ ˙uUPpѩ ð-1+f2+f3+f4+f5+f6+f7+f8+f9+f10+g",
    "1pHAUPTƉMMEpNEBENƉMMEpʯƉMMEpDEGREE ˙pȄŭBOWzďBOWzHARŻICzSNAP PIZZɺTOpPED]ǣvUPÆpŐPED]ǣpGLISSûOŎzÈpʁ F,ERNA",
    "ILSpDAMPt ĺpMAXȍpLOøpBREVISpʀBREVIS Ǆ+aǐpȶȍv ǐpʀȶȍ Ǆ+aǐpFUSA ǄuǐpLOø ġFECTA RţvIMġFECTA RţpBREVIS RţpʀBR",
    "EVIS Rţpȶȍ Rţpʀȶȍ RţpTEMPUS ġFECTѸCѸƜL÷E ġFECǕvIMġFECǕvġFECTAǊȶUŖ-1wIMġFECTѸCѸƜL÷E ġFECǕxIMġFECǕ+hǊȶUŖ-1",
    "++t2++t3pCROIXpGREGORąC CLEFzF CLEFpÃ BpVIRGApPODATUSpCLIVISpSCûICUSpCLȍCUSpśCULUSpPORžTUSy FLEXUSpSCûIC",
    "US FLEXUSpśCULUS ıUPINUSpPES ǥPUNCTISpKIEVĜC CLEFwʯPIECEwŚŊEwžǰT|ÆwWHOLEĐEwĸĐEwȇĐE STEM È+oUPwÅHĐE STEM ",
    "È+nUPwFLATÍpSORIpKOŦȜ2ěʳVOC]Ŋ÷ċ-1+cԜ+c6+c7+c8+c9+c10+d1+d2+d3+d4+d5+d6+d7+d8+d9+c20+d1+d2+d3+d4+c50+d1+d",
    "2+d3+d4gINʏUȆ]Ŋ÷ċ-1+j2+j4+j5+j7+j8+j11+k2+k3+k4+k7+k8+k9+j23+k4+k5+k6+k7+k9+j30+k2+k6+k7+k8+k9+j40+k2+k3",
    "+k5+k7+k8+k9+j50+k1+k2+k3+k4aȄʳѡ]TɀEMEzEĶSEMEyPØASEMEaʳѡ]LEIMMAȜ2E0aMAYĜћ]щo$ԎoĀoEL×oјpHIRŘo@ŘpIFŘoÕŘp×Ř",
    "oÅĔoĈŘȜ300bONOȎ ȅǌTHaDIȎ ȅHEAVENLY ǌTHmUMĜǌTHlǌTHLY HEAVENuUƣqaTEĶȎ ȅƟoFULL ÇoMIREDoĝRIERoKEEP=ѾoƤĶRIETY",
    "oASеoOPǇIŖoBRƷH=ƩoDEFECT|мđDISśŖp|RGENCEoYǀFULмoINCǅSEoPENETR÷oǅCHoэACToHȴ=ȯoWAIT,oFOLǒ,oADVƷEoRŬASEqSIS",
    "TƷEoEASEoJOYoƤĀŖoƌEAVOURoDUTIESoCH^EoDECIS|мoBƥıOLUŖoPACK,oLEGĩoЃEмoKINëPoGAÌR,oʏƚTHoPURITYoFULLмoREƖNCE",
    "oLAWđMOǳoıPONSEoGO,ʺȮEToENCнǆoSTOVEoGRƸмoENǩȆoPATÐNoRITUALoFíoVȌмđWȌ,oƤSTƷYoMEASUREoEÐƯYoUƯYoDIȶãȆoȺMǀoG",
    "UğEDмpAÌR,ĬoMǭ,oACCUMUL÷oEMBELLãȆoDOUBToWATCHoSINK,oINNERoDEƂTUREpARKEN,pIMM,oEXHAUSŖoSEVERƷEpTOPPƙoHğмo",
    "ʗLEŖpLOSUREoFAILUREoAGѐV÷oʗLIƷEoŝÌ VERGEoDIFFICULTIESoLABOUR,oFOʶ,Ȝ360aCн,ȊD UƯ ʟ$y:z[y@ԄnĀS ʟ$y:z[y@Ԅaɛ",
    "ЇTĺYÆ $x:y[x@y|aTĺYÆ $lF|Ȝ4ěMAÌMATIC]BƥõÓB+aC+aD+aȩF+aG+aH+aŔJ+aK+aL+aM+aN+aO+aP+aQ+aR+aS+aT+aȷV+aW+aX+a",
    "Y+aZs/AyByCӏyIyJyKyLyMyNyOyPyQyRySyTyUyVyWyXyYyZnǰLîõƘB+cC+cD+cE+cF+cG+cH+cI+cJ+cK+cL+cM+cN+cO+cP+cQ+cR+",
    "cS+cT+cU+cV+cW+cX+cY+cZu/ÓB+aC+aD+aȩF+aGȜǛ+aŔJ+aK+aL+aM+aN+aO+aP+aQ+aR+aS+aT+aȷV+aW+aX+aY+aZnBƥǰLîõA+hB+",
    "ԙF+ԘJ+ԗN+ԖR+ԕV+ԔZz/A+fB+fC+fD+fE+fF+fG+fH+fI+fJ+fK+fL+fM+fN+fO+fP+fQ+fR+fS+fT+fU+fV+fW+fX+fY+fZnɡõAȜ49E+",
    "cC+cDȜ4A2+cGȜ4A5+cJ+cKȜ4A9+cN+cO+cP+cQȜ4AE+cS+cT+cU+cV+cW+cX+cY+cZu/ÓB+aC+aDȜ4BB+aFȜ4BD+aH+aŔJ+aK+aL+aM+",
    "aNȜ4C5+aP+aQ+aR+aS+aT+aȷV+aW+aX+aY+aZnBƥɡõA+hB+ԙF+ԘJ+ԗN+ԖR+ԕV+ԔZz/A+fB+fC+fD+fE+fF+fG+fH+fI+fJ+fK+fL+fM+",
    "fN+fO+fP+fQ+fR+fS+fT+fU+fV+fW+fX+fY+fZnFRAKTUR õǂBȜ507+dԛȜ50D+dJ+dK+ӾO+dP+dQȜ516+dS+dT+dU+ԚYȜ51Ev/A+bB+b",
    "C+bDɾ+bF+bG+bH+bI+bJ+bK+bL+bM+bN+bO+bP+bQ+bR+bS+bT+bU+bV+bW+bX+bY+bZnҠõA+jBȜ53B+jD+jE+jF+jGȜ540+jI+jJ+jK",
    "+jL+jMȜ546+jOȜ54A+jS+jT+jU+jV+jW+jX+jYȜ552+b/A+hB+ԙF+ԘJ+ԗN+ԖR+ԕV+ԔZnBƥFRAKTUR õA+iB+iC+iD+iE+iF+iG+iH+iI",
    "+iJ+iK+iL+iM+iN+iO+iP+iQ+iR+iS+iT+iU+iV+iW+iX+iY+iZ+a/A+gB+gC+gD+gE+gF+gG+gH+gI+gJ+gK+gL+gM+gN+gO+gP+gQ+",
    "gR+gS+gT+gU+gV+gW+gX+gY+gZn˝ õA+gB+gC+gD+gE+gF+gG+gH+gI+gJ+gK+gL+gM+gN+gO+gP+gQ+gR+gS+gT+gU+gV+gW+gX+gY+",
    "gZy/ƓB+eC+eD+eE+eF+eG+eH+eI+eJ+eK+eL+eM+eN+eO+eP+eQ+eR+eS+eT+eU+eV+eW+eX+eY+eZyBƥõA+lB+lC+lD+lE+lF+lG+lH",
    "+lI+lJ+lK+lL+lM+lN+lO+lP+lQ+lR+lS+lT+lU+lV+lW+lX+lY+lZ+d/A+jB+jC+jD+jE+jF+jG+jH+jI+jJ+jK+jL+jM+jN+jO+jP+",
    "jQ+jR+jS+jT+jU+jV+jW+jX+jY+jZyǰLîõA+nB+nC+nD+nE+nF+nG+nH+nI+nJ+nK+nL+nM+nN+nO+nP+nQ+nR+nS+nT+nU+nV+nW+nX",
    "+nY+nZ+f/A+lB+lC+lD+lE+lF+lG+lH+lI+lJ+lK+lL+lM+lN+lO+lP+lQ+lR+lS+lT+lU+lV+lW+lX+lY+lZyBƥǰLîõA+sB+sC+sD+s",
    "E+sF+sG+sH+sI+sJ+sK+sL+sM+sN+sO+sP+sQ+sR+sS+sT+sU+sV+sW+sX+sY+sZ+k/A+qB+qC+qD+qE+qF+qG+qH+qI+qJ+qK+qL+qM",
    "+qN+qO+qP+qQ+qR+qS+qT+qU+qV+qW+qX+qY+qZnŻOʔ õA+fB+fC+fD+fE+fF+fG+fH+fI+fJ+fK+fL+fM+fN+fO+fP+fQ+fR+fS+fT+",
    "fU+fV+fW+fX+fY+fZx/ǂB+dC+dԛ+dH+dI+dJ+dK+ӾO+dP+dQ+dR+dS+dT+dU+ԚY+dZnǰLî/ƛЫI+iJȜ6A8nBƥõɞ+aBETÓGƒ+aǳTÓEЧaZE",
    "TÓETÓÌTÓȥ+aЬ+aáDÓMȷNȷXŔТ+aPŔʈ+aҔ+aʦ+aTAȷUЧaPHŔCHŔPSŔȂsNABLAs/ɞyBǯyGƒyǳTAyEȋyZǯyǯyTHǯyȥyЬyáDAyMUyNUyXIyТy",
    "PIyʈyŚʦyʦyTAUyUȋyPHIyǻyPSIyȂsƂTӼALsEȋċsҔsЬċsPHIċsʈċsPIċnǰLîõɞ+cBETƘGƒ+cǳTƘEЧcZETƘETƘÌTƘȥ+cЬ+cáDƘMU+cNU+c",
    "XI+cТ+cPI+cʈ+cҔ+cʦ+cTAU+cUЧcPHI+cǻ+cPSI+cȂuNABLAu/ɞ+aBETÓGƒ+aǳTÓEЧaZETÓETÓÌTÓȥ+aЬ+aáDÓMȷNȷXŔТ+aPŔʈ+aŚʦ+a",
    "ʦ+aTAȷUЧaPHŔCHŔPSŔȂuƂTӼALuEȋċuҔuЬċuPHIċuʈċuPIċnBƥǰLîõɞ+hBEǕhGƒ+hǳǕhEЧhZEǕhEǕhÌǕhȥ+hЬ+háDA+hMU+hNU+hXI+hТ",
    "+hPI+hʈ+hҔ+hʦ+hTAU+hUЧhPHI+hǻ+hPSI+hȂzNABLAz/ɞ+fBEǕfGƒ+fǳǕfEЧfZEǕfEǕfÌǕfȥ+fЬ+fáDA+fMU+fNU+fXI+fТ+fPI+fʈ+",
    "fŚʦ+fʦ+fTAU+fUЧfPHI+fǻ+fPSI+fȂzƂTӼALzEȋċzҔzЬċzPHIċzʈċzPIċn˝ Bƥõɞ+lBEǕlGƒ+lǳǕlEЧlZEǕlEǕlÌǕlȥ+lЬ+láDA+lMU+",
    "lNU+lXI+lТ+lPI+lʈ+lҔ+lʦ+lTAU+lUЧlPHI+lǻ+lPSI+lȂ+dNABLǂ/ɞ+jBEǕjGƒ+jǳǕjEЧjZEǕjEǕjÌǕjȥ+jЬ+jáDA+jMU+jNU+jXI+",
    "jТ+jPI+jʈ+jŚʦ+jʦ+jTAU+jUЧjPHI+jǻ+jPSI+jȂ+dƂTӼȉdEȋċ+dҔ+dЬċ+dPHIċ+dʈċ+dPIċ+dǰLîõɞ+sBEǕsGƒ+sǳǕsEЧsZEǕsEǕsÌǕ",
    "sȥ+sЬ+sáDA+sMU+sNU+sXI+sТ+sPI+sʈ+sҔ+sʦ+sTAU+sUЧsPHI+sǻ+sPSI+sȂ+kNABLA+k/ɞ+qBEǕqGƒ+qǳǕqEЧqZEǕqEǕqÌǕqȥ+qЬ+",
    "qáDA+qMU+qNU+qXI+qТ+qPI+qʈ+qŚʦ+qʦ+qTAU+qUЧqPHI+qǻ+qPSI+qȂ+kƂTӼȉkEȋċ+kҔ+kЬċ+kPHIċ+kʈċ+kPIċnBƥõDIGƒs/DIGƒȜ",
    "7CEsčy$y:z[y@ԄnҠč+h$+h:+i[+h@+i|+hÕ+i×+hÅ+hĈn˝ č+e$+e:+f[+e@+f|+eÕ+f×+eÅ+eĈyBƥč+j$+j:+k[+j@+k|+jÕ+k×+jÅ+",
    "jĈnŻOʔ č+d$+d:+e[+d@+e|+dÕ+e×+dÅ+dĈaSIGNWRIT=ĳ-FIST źrȗźsďźrOV]źпźrʿźʓĲɫrȗĲɫʓǿǍçĲɫwĲ˱KN˿ќcCUPPED+cH,ED+i",
    " ǒrȗĲH,EʓĲȫrȗĲȫʓĲËɫ+j˱KN˿LES+jH,ED+cďËH,ED+cH,%ȫŎ+cËс+s Ĳɫ+tËɫ+tCUPPED+tH,ED+kROSSEDrȗĲËĢEDʓËɫÖźwĲɫÖȫ+cË",
    "˗rȗĲË˗ʓĲËʲ ǿɫ+jɫ ǿʲ+jǿɫ+jH,%SPǅD ˢ+cďËH,%ˢ+zс+cH,%Ëďˢ+cËďSPǅD ǿа+jǿCUPPED+qIRCLED+pĊED+q,EDwǿл ĲËʲwĲËс ˢ",
    "++d с++eɫwËǿĊ%źŎwĲǿĊ%ȫŎ+cËс H,%ˢ+kROSS%ˢ+kONɯ%ǿа+tCUPP%ǿаwËǿCUPP%źŎwĲǿCUPP%ȫŎwËǿſźŎ+xH,EDwĲǿ^L%Ʃ ȫŎ+pēȫŎ",
    "+iſȫŎ+cËǿс H,ED+p^L%Ʃ+vwËǿ^L%Ʃ źŎ++aĢED+qźŎwĲǿĊ%ËH,EDsLȧ@ F,ǆ+i ɫ+jH,ED+jс+s SPLITrCLAW @ F,ǆ сʓ@ F,ǆ с ",
    "ɫп@ F,ǆ сrFLȧқwЏ қwқ @ ɫwЏ қ @ ɫwқ ɫwЏ қ ɫwқ ǿаrCďқ+o ʎпқ ʎrOV]қrFLȧқ H,ED+w ˢ+xNO ˗vv лǱLM FAC,SwЏwˢwЏ ",
    "ˢwǿɫ+cаwSPLIT Ĳˢ+cƟ+i ˢ+t ɫ+cȚrCLAWv ˢwNO ˗wǿаrĊ ɓICUEvrCďʎuu ĖˢvˢvĖNO ˗vNO ˗vĖǿаvǿаtRLICUE ʎzsIRCLErOVA",
    "Lv ˢwNO ˗wǿапʎ+b ǿаww ѾxĖˢxˢxĖNO ˗xNO ˗xˢʺUCH=ź+dл ËR,r^LEʓĲËR,rȗĲËR,пĲËR,rʿĲËR,пȚʓĲËR=ɫ+oспĲËR=сʓȚ È+h ",
    "RIPPťʲ+pɥED+iOTHǆ ÇD+dUPwǿǍçȚŎrȗȚŎrOV]ȚŎrʿȚŎʓȚ ˱KN˿ќdɫ+dTOUùS ˗+eHUMBпȚ ˗ʓȚ Ĳ˗пȚ Ĳ˗rʿȚ ĲǿĲǿƩ++bʓȚ źrȗȚ ź",
    "пȚ źrʿȚ źʓĲËȚrȗĲËȚпĲËȚxR,rʿĲËȚʓĲËĢ ȚrȗĲËĢ ȚʓR=ÈпR=ŭĲǿĊ ȫrʿR=ŭËǿĲĢʓR,Ŏ+b˱KN˿ќbȚrȗІrOV]ІrʿІʓR=ȫ+h с+i˱KN˿L",
    "ES+bź+b˗rĊ R=˗ʓĲІrȗĲІsURLICUE ĲІ ONrĊ ĲІ Ʃ+oIN+oǍERrCďĲІпĲІrʿĲІ Ʃ+oʓËÈпȫʓȫŎrȗȫŎʓË˱KN˿ќdďˢrĊ Ë˗ʓËǿȚ+dȚ+dІ",
    "rȗËІsURLICUE ËІ ONtP ËІпËІrʿËІ Ʃ+qIN+prȗËІ ɫsLAW ËІ с+y ƖrĊ ËІ с Ʃ+zIN+ys,E ĲH,EDʓĲˢпĲˢʓĲˢ ˗Ǌɷȉtс+tɫ+nĲɫ",
    "+nBOTH ɫ+nĲH,E+iа Ĳʲ+wɫ+iĊ+iɓICUE+lVE ˗ĬƖrCLAW ĲǿɥE ˗ĬƖʓĲǿɥE ǿǍER+jIRCLErCďĲ˗+g ʎпĲǿʎ+jǩ+i+i ѾrʿĲǿƩ+jIN+",
    "iʓ˗+b Џ+cƖǊɷȉhс+hɫ+cа+cл Ĳȫ+kËR,+kІ+cǍç: F,ǆ+cß : F,ǆ+cǍçƕF,ǆ+i@ F,ǆ+cß @ ˱KN˿LESvv ЏmTOUCH Ȗs˥EsлmѐSP Ȗ",
    "s˥EsлmSżKE Ȗt˥EtлmBRUSH Ȗs˥EsлmRUB Ȗq˥EqлmSURЁċSuлnQUEEZE ȢȖu/ȖuȢ˥Eu/˥EvEQUØIALmFLŏ ȢȖs/ȖsȢ˥Es/˥EtEQUØIA",
    "LmSQUEEZE FLŏ ˖,mШ-H,E ďŭǩ+jȣeSEQUØIȉbŭSEQUØIȉbďŭ˖=ǩ+vȣbƖ˘Ɩ SCISSORSvʼF,çэACTvˍF,çэACTvʼЂʲ ȣvʰvǩ++aST+mҮ",
    "f>ʲ+mҮm˖,+x ҮfĢ+fǝʲ Ш+mҮm˖,+x ҮfBƌ ȣkʰkǩ+fǷ ȣmʰmǩ+mROT÷+gHECK ȣlʰlǩ+fɌ ȣjʰjǩ+fZIGZAG ȣmʰmǩ+fPEAKS ȣlʰlǩm",
    "ĶVEL-ʼROT÷-ʼ˲wĕ+w˖,+mˍ˲xĕ+x˖,+d?K,+dARM SPIR]˲oĕ+ożPLEmШ-ȃAɊ ȣjʰjǩ+oST+eTO˛ȣmʰmǩ+rST+eл AɊ ȣrʰrǩ+wST+mTO",
    "˛ȣuʰuǩ+zSTvˍЂʲ ȣwʰwǩ++bST+nҮg>ʲ+nҮn˖,+y ҮgĢ+gǝʲ Ш+nҮn˖=Ш+zҮgBƌ+gǷ ȣnʰnǩ+hHECK+gɌ ȣkʰkǩ+gZIGZAG ȣnʰnǩ+gPE",
    "AKS ȣmʰmǩmĶVEL-ˍROT÷-ˍ˲yĕ+y˖,+nʼ˲xĕ+x˖,+e?K,mШ-ʼɥE Ҏȣtʰtǩ+yST+lĸ-ȗȣxʰxǩ++cST+lT[-Ҏȗȣ+gʰfHUMP ȣkʰkǩ+fȀP ȣ",
    "kʰkǩ+k/ĕ+fʭ ɥE >ȣxʰxǩ+qǝȣxʰxǩ+fɥE THķʲ+kD Ģ ȣsʵUMmROT÷-ʼ˲fĕ+f˖EmШ-ʼ?K,+fɥE ӳ+fHUMP ӳ+fȀP ӳ+fʭ ӳmROT÷-ʼЂӳ",
    "+f>ӳ+f˖=ӳmШ-ʼɥE ʻCHţ+fHUMP ʻCHţ+fȀP ʻCHţ+fʭ ʻCHţmROT÷-ʼЂʻCHţ+f>ʻCHţ+f˖=ʻCHţmШ-ʼʭ ȃPATH ȣyʰyǩvˍɥE ʻCEIL=ȣ",
    "+cǩ+gHUMP ʻCEIL=/ĕ++bȢĕ++b/żPќ+bȢżPќgȀP ʻCEIL=/˲+bȢ˲+b/ĕ++bȢĕ+gʭ ʻCEIL=ȣ+bǩmROT÷-ˍЂʻCEIL,+g>ʻCEIL,+g˖=ʻC",
    "EIL,mШ-ˍɥE ʻFȀR ȣ+aǩ+gHUMP ʻFȀR /ĕ+zȢĕ+zǝ/żPќ+gȢżPќgȀP ʻFȀR /˲zȢ˲z/ĕ+zȢĕ+gʭ ʻFȀR ȣzǩmROT÷-ˍЂʻFȀR+g>ʻFȀR+",
    "g˖=ʻFȀRmШ-ˍɥE ȣmʰmǩ+rST+mCOMBǡD+gHUMP ȣgȀP ȣgʭ SNAKE+mMĺ+lǩmROT÷-ˍ˲gĕ+g˖,mШ-ˍ?K=ҳvʼARM ȗ/˲qŁ˲q/ĕ+qŁĕvˍAR",
    "M ȗʻWĺ /˲+eŁ˲+eȢ˲+e/ĕ++eŁĕ++eȢĕvʼWɀT ȗFŦT ˲yĕvˍWɀT ȗʻWĺ ˲+gĕvʼF,çÇS ˲uĕvˍF,çÇS ʻWĺ ˲+iĕmDYNAMICʛ ȣeǩuFȌu",
    "SǒuĀSEuRELAXEDuSIMULȭEOUS+g ˖,uEɬOTHçTŒuѐDUALmŷq RIMrШ-ʼʲ+kTILT+aˍʲ+aʼɥȩˍɥEz ÇmЁǊžĹǇIĹNOSE а TILT,+pUPđÈ",
    "+z TILT,mEYEBROWS ʲŎ+e˯ȉeÈmDǅMY EYEBROWS ˯]È+cŭ˯ȉcď˯ȉc˯]UPmʹEŷ ˯ALvэACTvWǽKLEDmЅ ʎrSQUEEZEDrЃEDp BLINK Ȗ",
    "w˥EpS ŐʎrWɢ ʎrŐЃEDrWɢN=Шp WINKpLAåSŎwÈwFLUTÐ,pGAZE-ʼʲ+m ĕ+n˖,uˍʲ+n ĕ+o˖,uʼɥEDuˍɥEDuʼCIRCL,mùEKS PUFFEDt˯",
    "ALtS˿EDmĀSE ùEKS HIGHzȫzǒmǌSmNOSE ˯ALrэACTrWǽKLESsIGGLESmǃ Bǒ=ƩqS˿,ĬqBŀ/ROT÷SqS˿ /ROT÷SmBRƸHĬHŴtEXHŴmMǀ ",
    "Ⱥ˯ALzаzэACTsSɕEx WǽKLEDyʎsFROWNx WǽKLEDyʎsĖÇxаxWǽKLEDxOVȉb WǽKLED+cYAWNxžT^ќg WǽKLED+hYAWNsKISSw аxWǽKLE",
    "DsĀSEx аyS˿EDmLIPS PıS%TOGEÌRp ìßŎġqĻß ǒERmMǀ ǷSsWǽKLES ˲bĕmTĥUE STŏ=Ʃ FARtLŏ=LIPStTIP л LIPSxTOUCH,ĬƖ M",
    "ǀtINƖ Mǀ RELAXEDtMOVES AGñST ùEKtƟ STŏ=Ʃ+ƭƖ MǀnEïr ШsŝTĥUE+b ШvLIPSz ШsBITE LIPSmШ-ʼJAWvˍJAWmNECKmHǃmEXC",
    "ITEȆmSȘLDçHIP SPǡzǇIŖSmʼSȘLDçHIP MOVEmˍSȘLDçHIP MOVEmSȘLDçTILT=FROM WAISTmśSO-ʼʲ ʏETCH+cɥ%BƌsˍTWIST,mĻBO",
    "DY TILT=FROM HIP ɯTSmLIMB COMBIN÷rLƚTH-1Рy6y7mF,ERmLOC÷-ʼʔvˍʔu HÅvWIDTHvDEPTHvŷ NECKvśSOvLIMBS DɖTSmĤmƠm",
    "ʀƑmƑmƺȜA9BmFĎ MODIFIER-2+a3+a4+a5+a6ȜAA1mROTAĹMODIFIER-2+e3+e4+e5+e6+e7+e8+e9+e10+f1+f2+f3+f4+f5+f6ȜFěŠ/",
    "&Fƚʡ!TRĎtăɡGgɵèG#ăKgɵL!BELT#LEZH!ǧtèY!BELTtăƚtèR!āLEG(ǧuò(ǧg&REȵFLEX CLŏ!ǧ#ć!>ĝ+m(ɓtèT!ɓg&Ġʉɗ!ɓnʏETCH%C!",
    "ɓoMĺ õèK#L!FãĊtDEZHʡʴtL!BELT(PŞT]ĊtƚʴtèRʴtR!FãĊ(PŞT]ĊtTćʡʴtEZHʴtDEZHʡ!ǧtIÔ(ǧtO!ǧtTćʡ!ǧtC!ǧtS!ɓ;1E0ěȄGȐOL",
    "IT˫AZU+cBUKY+cVEDE+cGȐOLI+cDOBRO+cYţU+cZH|TE;1E008+dEMLJƘIZHE+dƯI]IZHE+d+cDJERVI+cKAKO+cLJUDIJE+cMYSLITE",
    "+cNAë+cONU+cPOKOJI+cRITSI+cSLOVO+cTVRIDO+cUKU+cFRITU+cHERU;1E01B+cSHTƘTSI+cCHRIVI+c?+cYERU+fI+dATI;1E023",
    "+dU+cѾɸ;1E026+cYO+cȥT%Ѿɸ+cBIGɸ+cȥT%BIGɸ+cFǰ;1E1ěNYIAKƚ PUACHUE HMĥ &MƓTSƓNTƓTƓHƓNƓXƓNKƓCƓLƓSƓZƓNCA+fTSƓK",
    "ƓDƓþ+fRƓVƓNTXƓTXƓFƓRƓQƓYƓNQƓPƓXYƓNPƓDLƓNPLƓƇ+eMLƓPLƓGƓRRƓA+fƓI+eU+eO+fO+eE+fE+eW;1E130xT$-B+cM+cJ+cV+cS+",
    "cG+cDxÄȅɪоgTH,+gLOC÷+gANIMȉgINVERTEBRƝ+cXW XWyYĘфLƚÌNER;1E140xč+d$+d:+e[+d@+e|+dÕ+e×+dÅ+dĈ;1E14ExLOGOȎ þ",
    "JxſCA;1E290aTOTO &PAmBAmTAmDAmKAmGAmMAmNAnGAmSAmŗmYAmWAmJAmHAmRAmLAmImBRƸHY ImIUmBRƸHY IUmUmEmBRƸHY EmEO",
    "mBRƸHY EOmOmAEmBRƸHY AEmAfÄɀ=T$;1E2C0aWƷHO &AApoBAoCAoDAoGAoYAoPHAoLAoNAoPAoTƼFAoSƼJAoZAoWAoVAoKAoOoAUoR",
    "AoMAoKHɱoEoIoøoUoLLHAoƔpRAoĥoA^pNGo,oONoENoAANoþoUENoYIHhT$ TUPpNImKOIpNIhčn$n:o[n@ԅ;1E2FFhNGUNÍ;1E7E0aï",
    "IOPîЄťHHYAvUԊvO;1E7E8sGURƙ HHWAsHHWIvEEw;1E7EDsGURƙ MWIɾE;1E7F0zQWIɾE+czBWIɾEzKWIɾE+czGWIɾE+czFWIɾEzPWIɾ",
    "E;1E8ěMƌE KIKAKUI ЄťMʂ KŔ2 KÓ3 KUz65 KEEz95 KEz76 KOOz48 KOy179 KUAy004 WŔ5 WÓ6 WUy126 WEEz18 Wȩ4 ʕy045 ",
    "WOy194 WUIz43 WEIy061 WVIz49 WVAy139 WVEy007 ȶ+a8 ƣ+a9 MUNz59ȮNz94 Ży154 MUANz89 MUENy010 BŔ1 BÓ2Ƭy150 B",
    "EEy097 BEy103 BOOz38 BOy013 Ŕ4 Ó5 Uy163 EEz00 Ez65 OOz47 Oz37 EŔ1Ĭ+a5Ĭz95 ANz78 ENy019 SIz20 SÓ1 SUy162 ",
    "SEEz16 SEz36 SOOy079 SOy196 SIAy025 LŔ6 LÓ7 LUz84 LEEz73 LEz54 Ȁy153 LOz10 āLEy016 DŔ7 DÓ8 DUz89 DEEy180",
    " DOO+a1 DOy022 TŔ3 TÓ4 TUz91ɽEz55ɽy104ʺOy069ʺz28 JŔ9 JAz30 JUy157 JEEz13 JEz60 JOOy063 JOy175 āJOy031 YŔ",
    "2 YÓ3 YUy109 YEEy080 YEy141 YOOz21 YOy034 FŔ5 FÓ6 FUz78 FEȩ5 FEy133 FOOy088 FOy197 FUAz01 FANy037 NIN+a8",
    " NAN+a9 Ƌy117 NENz69 NONz76 HIy041 HAy186 HUy040 HEEz96 HEz42 HOOy140 HOy083 HEEIy128 HOOUy053 HINy130 H",
    "ANy087 HUNz52 HENy193 HONy046 HUANz90 ƶIz43 ƶAz82 ƶUy115 ƶEEz46 ƶEz56 ƶOOz20 ƶOz59 ƶAAz27 ƶUAy086 āƶEy10",
    "6 āƶOOz83 āƶOz55 GIz11 GAz68 GUz90 GEEz66 GUEŔ7 GUANz84 NGENy057 NGONy177 NGUANy068 PIz99Ǳz50 PUz81 PEEz",
    "51 PEy102 POOy066 POy145 MBIy062 MBAy122 MBUy047 MBEEy188 MBEEy072 MBEy172 MBOO+a4 MBOz87 MBUUz61 āMBEz0",
    "5 āMBOOz42 āMBOz32 KPIy092 KPAz74 KPUz44 KPEEy108 KPEz12 KPOOz58 KPOz24 GBIy056 GBAy148 GBUy093 GBEEy107",
    " GBEy071 GBOO+a0 GBOy171 RAz23 NDŔ9 NDÓ5 NDUz91 NDEEz19 NDEy067 NDOO+a4 NDOy152 NJAz92 NJUz49 NJEEz34 NJ",
    "OOz82 VŔ5 VAz51 VUz73 VEEy085 VEy144 VOOy077 VOy164 NYINy058 þNy170 NYUNy098 NYENz60 NYON;1E8C7oʟ$u:v[u@",
    "ӣoȄˆçŘS+hNS+fHǍREDS+fМS+gENÑS+fHǍR%МS+fMĎĩS;1E9ěADá ŋũFvDAũvLAAMvMIIMvBAvSINNYIIYHEvPEvBHEvRAvEvFAvIvOvD",
    "HAvYHEvǚvƋvɟvYAvUvJIIMvǻvHAvQAAFvGAvþvTUvNHAvVAvƈvGBEvZALvKPOv?#ũFtDAũtLAAMtMIIMtBAtSINNYIIYHEtPEtBHEtRA",
    "tEtFAtItOtDHAtYHEtǚtƋtɟtYAtUtJIIMtǻtHAtQAAFtGAtþtTUtNHAtVAtƈtGBEtZALtKPOt?gũF LƚÌNERgЮ LƚÌNERgGEȶAŶgțgˏ ",
    "MODIFIERgGEMIєˏ MODIFIERgʬhASũZAŶ;1E950gčm$m:n[m@ӧ;1E95EgIƯI]˶oʣ;1EC71aĦîSIYAQ ˡt:u[t@ҺtĀuƐuǙt˼uɚt˽uуtÅY",
    "tѠtȈt:ÿu[ÿt@ÿu|ÿtÕÿu×ÿtÅÿtĈÿt$Ñt:Ñu[Ñt@Ñu|ÑtÕÑu×ÑtÅÑtĈÑtĀÑuƐÑuǙÑt˼ÑuɚÑt˽ÑuуÑtÅYÑtѠÑtLAKHxANmLAKHÆmˆERƞRO",
    "RyANtPREFIX%$+c:+d[+c@+d|+cÕ+d×+cÅ+cĈmɄCEHȴERmFЕ$ ȇzĸvƕȇSmRUPEEÆmˆç˳$+d:+eENÑm˳LAKHÆ;1ED01aOTTOMĜSIYAQ ˡ",
    "v:w[v@w|vÕw×vÅvĈvĀwƐwǙv˼wɚv˽wуvÅYvѠvȈv:ÿw[ÿv@ÿw|ÿvÕÿw×ÿvÅÿvĈÿv$Ñv:Ñw[Ñv@Ñw|ÑvÕÑw×ÑvÅÑvĈÑvĀÑwƐÑwǙÑv˼ÑwɚÑv",
    "˽ÑwуÑvÅYÑvѠÑoMARRAȭo˳ˆç:+g[+f@+g|+fÕ+g×+fÅ+fĈ+fĀ+f@ÿ+fÕÿ+f:Ñ+gENÑoFЕ$ ĸ+bÕTHȰěýBICƨÌMATIC]ƴuBEHuʒuDALȰ05",
    "uǚuZñuƇuȼuƳuɟuáuĉuǎuSĔuñuFEHuSADuQAFuɋuSHĔuTEHvħuƄuƧLuDADuZAHuгuƛЫBEH+cǎ+cFEH+cQAFȰ21uIƯI]BEH+cʒȰ24+cħȰ2",
    "7+dAHȰ29+cƳ+cɟ+cá+cĉ+cǎ+cSĔ+cñ+cFEH+cSAD+cQAFȰ34+cSHĔ+cTEH+dħ+cƄȰ39+cDADȰ3B+cгȰ42uǓ%ʒȰ47+bƇȰ49+bƳȰ4B+báȰ",
    "4D+bǎ+bSĔ+bñȰ51+bSAD+bQAFȰ54+bSHĔȰ57+bƄȰ59+bDADȰ5B+bгȰ5D+bƛЫǎȰ5F+jQAFȰ61uʏETCH%BEH+eʒȰ64+eħȰ67+fAH+eȼ+eƳ",
    "+eɟȰ6C+eĉ+eǎ+eSĔ+eñ+eFEH+eSAD+eQAFȰ74+eSHĔ+eTEH+fħ+eƄȰ79+eDAD+eZAH+eг+eƛЫBEHȰ7E+mFEHȰ80uȀP%ƴ+bBEH+bʒ+bDȉ",
    "bħ+bǚ+bZñ+bƇ+bȼ+bƳȰ8B+bá+bĉ+bǎ+bSĔ+bñ+bFEH+bSAD+bQAF+bɋ+bSHĔ+bTEH+cħ+bƄ+bTHȉbDAD+bZAH+bгȰA1uҠBEH+iʒ+iDAL",
    "ȰA5+iǚ+iZñ+iƇ+iȼ+iƳȰAB+iá+iĉ+iǎ+iSĔ+iñ+iFEH+iSAD+iQAF+iɋ+iSHĔ+iTEH+jħ+iƄ+iTHȉiDAD+iZAH+iгȰF0uƪ ĉȞ!TATWEE",
    "L+dƇ!DALŌ0ěMAHJĥ TIťEȌ WĦnSǀ WĦnɆ WĦnʜTH WĦnR%DRɷnGREķDRɷnęDRɷn$ӈn:ӈo[ӈn@ӈo|ӈnÕӈo×ӈnÅӈnĈӈn$ҽn:ҽo[ҽn@ҽo|ҽ",
    "nÕҽo×ҽnÅҽnĈҽn$àÇSn:àÇSo[àÇSn@àÇSo|àÇSnÕàÇSo×àÇSnÅàÇSnĈàÇSnPLUMnORǻDnBAMBOOnCHRYSANÌMUMnSPR,oUMMERnAUTUMN",
    "nWINÐnJOKERnȯŌ030aDOȶO TIťĞȯw-00-0ӭy1-0ӭy2-0ӭy3-0ӭy4-0ӭy5-0ӭy6-0ӭmĚȯu-00-00z1Ӣw1-00z1Ӣw2-00z1Ӣw3-00z1Ӣw4",
    "-00z1Ӣw5-00z1Ӣw6-00z1ӢŌ0A0aɄY=Cğ ȯnACEàѭn:àѭo[àѭn@àѭo|àѭnÕàѭo×àѭnÅàѭnĈàѭnĀàѭnJACKàѭnKˊàѭnвàѭnK,àѭŌ0B1nAC",
    "Eҥ:àǼSo[ҥ@àǼSo|ҥÕàǼSo×ҥÅҥĈҥĀҥJACKҥKˊҥвҥK,ҥR%JOKERŌ0C1nACEҦ:àǉSo[Ҧ@àǉSo|ҦÕàǉSo×ҦÅҦĈҦĀҦJACKҦKˊҦвҦK,ҦĭJOKER",
    "Ō0D1nACEѲn:Ѳo[Ѳn@Ѳo|ѲnÕѲo×ѲnÅѲnĈѲnĀѲnJACKѲnKˊѲnвѲnK,ѲnęJOKERnFOOLnTRUMP-ԣt10Ҷ20u1Ō1ěč ƠlĤg$ Ĥg: Ĥh[ Ĥg@ ",
    "Ĥh| ĤgÕ Ĥh× ĤgÅ ĤgĈ ĤcNGBȧſ˝ čiЗ| ſ˝ čaſщ!˙iКÉiDOĘRÍ!ßLAID ȯ˙aƂENÌSIZ%ŠŋA+jB+jC+jD+jE+jF+jG+jH+jI+jJ+jK+",
    "jL+jM+jN+jO+jP+jQ+jR+jS+jT+jU+jV+jW+jX+jY+jZaПŤ%ŠŋSaſǰLîŠŋC+kRiCDiWZbOPY_æÃD ŠŋǂB+dC+dԛ+dH+dI+dJ+dK+ӾO+d",
    "P+dQ+dR+dS+dT+dU+ԚY+dZiHViMViSDjSiPPViWCaЗ| ſŠŋA+mB+mC+mD+mE+mF+mG+mH+mI+mJ+mK+mL+mM+mN+mO+mP+mQ+mR+mS+m",
    "T+mU+mV+mW+mX+mY+mZa˱MCÍiDÍiRÎſCCj!ßLAID ȯ˙iHUMĜFIGUREaЗ| ÃD ŠŋA+mB+mC+mD+mE+mF+mG+mH+mI+mJ+mK+mL+mM+mN+",
    "mO+mP+mQ+mR+mS+mT+mU+mV+mW+mX+mY+mZaĢ%З| ÃD ŠŋPaЗ| ÃD ICrPArSArABrWCaÃ DJgD CLjOOLiFREEiIDiNEWjGiOKiSOSi",
    "UP!˶iVSiƕDiSEƤD SCRĔi: Ki@ KiÅ KiНО $iS× О $iTƐ-: О :i˽ PiȈ TƐ PiŠ/&DiHCjDRjI-ıiLOSSLESSiSHViUHDiVODaMAS",
    "K WORKċŌ1E6aREGĩ]Ħɺś Ǣ&A+hB+ԙF+ԘJ+ԗN+ԖR+ԕV+ԔZaÃ ҰHOKAgD ҟ KOKOrSAŌ210iCJK UNIFI%ɛʞ-624B+e5B57+f3CCiҟ DEi",
    "CJK UNIFI%ɛʞ-4E8C+e591Ɠ89E3+e5929+e4EA4+e6620+e7121+e6599+e524D+fF8C+f18D+e65B0+e521D+e7D42+f51F+e8CA9+e",
    "58F0+f439+e6F14+f295+f355+e4E00+h9+e904Ɠ5DE6+e4E2D+e53F3+e6307+e8D70+e6253+e7981+fA7Ɠ5408+e6E80+f709+h8+",
    "e7533+e5272+f5B6+e914DŌ240aПŤ%CJK UNIFI%ɛʞ-672C+v4E09+x8C+v5B89+v70B9+v6253+v76D7+v52DD+v6557Ō250aſɛʞ AD",
    "VƦƙtCCEPTŌ260aRū%ǢȅFUtLUtSȘtXItǑ^XItCAIŌ3ěCYCL$aFOGGYaȺUMBREĘaˊ!ǤSaSUNɀEÖMнñShaCITYSCAPE ȧDUSKaSUNʨÖBUIL",
    "D,SaRñBOWaBRIDGE ȧˊaWAʍʭaVOLCANOaɕKY ɊaǌTH GLOBE EUROPE-AFRɺmAMERɺSnSIA-AUʏũAaGLOBE!MERIDIANSaNEW MǾæWAX",
    "=ҋ MǾæFIRST ҎMǾæWAX=GIBBOUS MǾæFULL MǾæWAN=GIBBOUS MǾæLȌ ҎMǾæWAN=ҋ MǾæҋ MǾaNEW MǾ!ŅFIRST ҎMǾ!ŅLȌ ҎMǾ!ŅFU",
    "LL MǾ!ŅSUN!ŅGǒ=ǤaɔOT=ǤaÌRMOMEÐÚDROPLETÝSUNj!/CLOUDkBEHĦ CLOUDw!RñaCLOUD!RñlSNOWlíN,lśNADOaFOGaWĦ Bǒ˦HOT ",
    "DOGaTACOaBURRITOaCHţNUTaSEEDL,aEVERGREķTREEaDECIDUOUS TREEaPALM TREEaCACTUSaHOT PEPPÞTULIPaùRRY BLOSSOMa",
    "ROSEaHIBISCUSaSUNFǒÞBLOSSOMaǌųƨIZEhRɿaHERBa@ ˒ CLßaMAPť˒aFĺķ˒a˒ FLUTÐ=ēWĦaMUSHROOMaTOMATOaAUBERGǡaѐPESaM",
    "ELONaWAÐMELONaT^ERǡaLEŻaBANANAaPǡAPPĴR%APPĴGREķAPPĴPǌdCHaùRRIESaSĶWBERRYaHAMBURGÞSLɿàPIZZAaMƸǦB$aPOULTRY",
    " LEGaRɿ CȪKERfȠaCɮ%RɿbURRY(RɿaSTEAM=BOWLbPAGHETTIaBǅDaFRENCH FRIESaROȌ%SWEET POTATOaD^OaODENaSUëaFRI%SHR",
    "IMPbã CAKE!SWIRL DESIGNaГ ɿ CǅMbHAV%ɿaɿ CǅMaDOUGHNUTaCɮIEbHOCOLƝŢbûYaLOLLIPOPaCUǤDaH$Y POTaSǮTCAKEaɫO Ɍa",
    "POTàFOODaCɮ,aʹK(KNIFEaTEACďʁƩ ĳĴSAKE BOTTLE(CUPaWǡ GLǭaCOCKǓ GLǭaȵPIC]DǽKaBEçMUGaCLINK=BEçMUGSaBABY BOTT",
    "ĴʹK(KNIFE!PLƝaBOTTLE!POPP=CORKaPOPCORNaRIBBONaWRAPP%PıØaBIRTHDAY CAKEaJACK-O-LANÐNaCHɀTMAS TREEaFATHçCHɀ",
    "TMASbIREWORKSi SƂKLÞȠǾaƂёPOPPÞƤFETTI ȠaȭABATA TREEaĢ%FȐSaPǡ DECOR÷ӨDOLLSaɁP STǅMÞWĦ CHŒaMOŝVIEW=CEREŻYaS",
    "CHOOLǔTùLaѐDUAĹCAPaǼ!TIPǦÌ _aBOUQUETàFǒǆaɕǰRYȮDALaREMĦçRIBBONaѡ]KEYBOğ!JACKSaSTUDIO MICR˹$aLEVEL SLIDÞƤȵ",
    "L KNOBSaBEAM%ASCƌ=ѡ]ŊEShDESCƌ=ѡ]ŊESaFILM FȨESaADMISSIŝTŏETSaɁOUSEL ǮSEaFERɀ WЏaROLLçCOAʶaFã=POLE(FãaMICR",
    "˹$bOVIE CAMERAaCǡMAaŷPH$aARTIST PŴTTEaǏHATaCIRCUS TØaTŏETaCLAPPçBOğaġƃ,ƮTSaVɛ GAMEaDIžT HITaSLOTƨCHǡaBĎI",
    "ğSaGAMEǊEaBOWL,aFìɄY=CğSaѡ]ŊEcLTIPťѡ]ŊESaSAX˹$aGUǰRaѡ]KEYBOğaTRUMPETaVIOLINaѡ]SCOREaRUNN=ëRT!SêaĀNIS ȪQU",
    "ET(ȠaSKI(SKI BOOTaBASKETȠ(HOOPaùQUER%FȐaSNOWBOğÞRUNNÞSURFERbPORTSȮDALaTR˹YaǮSE Ȫ,aAMERICĜFOOTȠaRUGBY FOO",
    "TȠaSWIMMÞWÅ LIFTÞGOLFÞȪ=MOśCYCLEhɁaCRŏET BAT(ȠaVOLLEYȠaFIELD HOCKEY STŏ(Ƞaɿ HOCKEY STŏ(P˿aTAфĀNISǱDDLE(Ƞ",
    "aSNOW CAPP%MнñaCAMP,aBEACH!UMBREĘbUILD=ƤʏUCŖaȘSEƬILD,SaCITYSCAPEaDERELICT ȘSEƬILD,aCLǭIC]BUILD,aDESERTg ",
    "ISLûaN÷]ƂKaȬDIUMaȘSEƬILD,gʁ GğENaOFFɿƬILD,ӨǇTųFɿaEUROPEĜǇTųFɿaHOSPǰLaBANKaAUTOMAT%TELLERƨCHǡaHOTELaLOVE ",
    "HOTELaƤVENIENCE SśEaSCHOOLaDEƂTȆ SśEaFACśYaIZAKé LANÐNӨCȌĴEUROPEĜCȌLEÝPENNƦÚPENNƦaWAV=ęFȐhĭFȐaROʨTEÚROʨT",
    "EaLABELaBADȶTŝȪQUET(ǑTTLECOCKbOW(ÛaAMPǮAaEMOJI ʖFITZPATRŏ TYPE-1-2+g3+g4+g5+g6aRATaMOUSEaOXaWAÐƬFFALOaCO",
    "WaTIGÞLEOPğaRABBITaCATaDRɷaCROCODIĴWHAĴSNAILdKEaǮSEaȨaGOATaåEPaŻKEYaROOʶaCHŏENaDOGaPIGaBOARaŬPHƦaOCTOPUS",
    "aSPIR]åLLaBUGaƦaH$YBEEaLADY BEETĴFãaȵPIC]FãaBǒFãaTURTĴHATCH=CHŏaBABY CHŏaFŦT-FAC=BABY CHŏaBIRDaPƚUINaKOŞ",
    "aPOODĴDROMEDARY CAMELaBACTRąCAMELaDOLPHINaMOUSE ŅCOW ŅTIGçŅRABBIT ŅCȧŅDRɷ ŅSPƩ=WHAĴǮSE ŅŻKEY ŅDOG ŅPIG Ņ",
    "FROG ŅHAMSʍŅWOLF ŅBEǹŅPɼ ЁbIG NOSEbAW PǽTSaǻPMUNKaЅdbARaNOSEaMǀaTĥUEÝUPŜȯĳ źgÈŜȯĳ źg_Ŝȯĳ źg.ҙȯĳ źaFIST%ĳ",
    "ÎWAV=ĳÎOK ĳÎ˗SŎÍhÈÎCLAPP=ĳSÎĖĳSÎCROWNaWOƣS HATaEYEGLǭESaNECKTIEaT-ëRTaJEANSaDıSaKIŻOaBIKINIaWOƣS CLOÌSaP",
    "URSEaĳBAGaPOUCHaƣS ɔEaATHLETîɔEaHIGH-Џ%ɔEaWOƣS SɼLhBOOTSaFOOTPǽTSaBUST ēSILȘETTEeS ēSILȘETTEbOYaGIRLaƣaW",
    "OƣaFAɕYaƣ(WOMĜHȴ=ĳSa: MķHȴ=ĳSeWOMķHȴ=ĳSaPOLɿųFICÞWOƣ!BUNNY ǌSaBRɢ!VEILaɪON!BLOND Hǃaƣ!GUA PIƨOjTURBANaȴç",
    "ƣgWOƣaBABYaƤʏUCĹWORKÞPǽCESSӨOGREjGOBLINaGHOSTaBABY ^ELaEXĶÐıż]ũENaũķŻʶaIMPaSKULLƭƃAĹDESK ɪONaGUğSƣaDƷÞLI",
    "PSTŏaNAIL POLãaЁ MǭƙaHǃCUTaĝBçPOĴSYR,EaPĎaKISSÆaLOVE LETTÞR,aGEM ST$aKISSaBOUQUETaCOUPLE!ǼaWEDD,aBƸ=ǼbRO",
    "KķǼa: ǼSaSƂKL=ǼaGROW=ǼaǼ!ÛaBLUE ǼaGREķǼaYELŀǼaPURPťǼaǼ!RIBBONaREVOLV=ǼSaǼ DECOR÷aǉ ?PE!AŨĬƖaŬCTRîíƬLBa^E",
    "RæBOMBaSLEEP,æCOLLISĩæSPLê=SWƸæDROPLETbêæPILEàPOOaFLEX%BɿPSaDIZZYæSPEECH ȠǾaTȘGHT ȠǾÝFǒÞHǍR%ОSæM$Y BAGaC",
    "URRENCY EXCH^EƆDOĘRÎCREDIT CğaBANKŊE!YENÍoDOĘRÍoEUROÍoPūÎM$Y!W,SaŗRT!UP˛TRƌ(YENÎSƸaɪON]ʗUTÞBRIEFCASEaȶID",
    "ISCaFLOPPYǊSKaOPTIC]DISCaDVDaFIťFȴÞĖFIťFȴÞPƙ!ɓfFAC,ŎaCALƌARaTǌ-OFF CALƌARaCğ źbHART!UP˛TRƌlńTRƌaBǹŗRTaCL",
    "IPBOğaPUSHPINaRū PUSHPINaPAġCLIPaʲ RULÞˤRULÞBɮǣŲBSaLEDGÞŊEBɮi!DECORAT| CßaȺBɮaĖBɮaGREķBɮaBLUE BɮaOR^E Bɮ",
    "aBɮSaNAME BADGEaSCROLLaMEMOaҒ žE|RaPAGÞFAXƨCHǡaSƝLLITE ƦEĿaPUBLîADDıS LOUDSPEAKÞùER,ȮGAPH$aƩɌ ĶYƭɌ ĶYaPA",
    "CKƙaE-MAILċƭCOM=ҼaҼ!ʱ*aȺMAILɌ!ǒER%FȐu˱FȐaʎƨILɌ!˱FȐsǒER%FȐaǇTɌe]ƫaNEWSPAPÞMOBIťPH$m!â ȧ_aVIBRAĹMODEaMOBIť",
    "PH$ųFaNO MOBIťPH$SaƦEĿ!ĝSaCAMERAg!FLêaVɛ CAMERAaTŬVISĩaRADIOaVɛCASʨTEaFILM ƜJECśaPORTAфʶEObRAYçBEADSaTWI",
    "ST%âSaCѷ ÁŇ(˭ĖÇÉS++b!ſ$ ßѝńûŎ˛ĖÇÉSaК ńûŎ˛ĖÇÉSaŀBÁмæơBÁмæSPEAKER!CƷEĘĹðhh!$ Sū ʭnƕSū ʭSaBATÐYaŬCTRîPLUGa_",
    "ƎMAGNIFY=GLǭa˂MAGNIFY=GLǭaˌ!INK PENaȺˌ!KEYaKEYaˌaĖˌaBELLe!CƷEĘĹðbɮǣaLINKæRADIOƬTTONaȯ!ƍ*aƌ!ƍ*aON!˶!<.Û*a",
    "SǾ!â*aTOP!UPʚ*aNO $ ǍçÅĔæKEYCAP ĀƭPUT ǢȅŠõLETTǆx/LETTǆrˆǆrSYMBOLSrŠLETTǆaFIREaŬCTRîśCHaWRENCHaHAMMÞNUT(B",
    "OLTaHOCHOaPISTOLaMICROSCOPEaTŬSCOPEaCRYST]ȠaÕ ǶǤ!ȫŨӨǢȅBEGINNÞżDØ EMBLEMÚÃƬTTONÝÃƬTTONaȢR%ÇgBLUE ÇgOR^E ǉ",
    "gBLUE ǉa/OR^E ǉgBLUE ǉɹƎR%ôaÈƎR%ôɹƎ/R%ôaÈƎ/R%ôaì.ЙÇˬ.ЙÇaſĢ POMMEEbROSS POMMEE!ĸ-ÇÊmaŊCH%<ʀÇ!ɍi.ʀÇ!ɍaǢʹÆS",
    " ŗPÐÝŠĢƆŠĢaCELTîĢaOMæDOVEàPEACEaKAABAaMOSQUEaSYNAGOGUEaMEʜAH!Ĉ BRANùSaBOWLàHYGIEIAaCˌ Ё $ OCˌl: OCˌm[ OC",
    "ˌl@ OCˌm| OCˌlÕ OCˌm× OCˌlÅ OCˌlĈ OCˌlTķOCˌlEL× OCˌlј OCˌl$-TǙl:-TǙm[-TǙl@-TǙm|-TǙlÕ-TǙm×-TǙlÅ-TǙlĈ-TǙlĀ",
    "-TǙlEL×-TǙlј-TǙa.SPEAKERn!$ Sū ʭtƕSū ʭSaBULLƫi!Sū ʭSaR,=BELLaBɮaCûĴMƦELPIECE CˌÚSKULL(ĢB$SaNO PIȪYaHOĴƣĬ",
    "ƬSIм SUIT LEVǰT,aSLEUTHđSPYaDARK SŪLǭESaSPɢRg WEBaJOYSTŏaMĜDƷ,a<ĳ Ғ žE|RaҒ žE|R!Pƙa.ĳ Ғ žE|RÝTOUCHT$ ҒÚT",
    "OUCHT$ ҒaҒǦTOPàMODEMaCáåLL MOBIťPH$aȯàҼaȬMP%ҼaҼ!íN,aFLY=ҼaPENÖȬMP%ҼaLINK%PAġCLIPSÚPUSHPINaì<PENCILlȠО PE",
    "NlFнAēPENlPñTBRUSHlCRAYONbEFT WRIT=ĳaèOK ĳÎ˱ĳ!F,ǆ SɄYEDbEVǆ%˱ĳ!F,ǆ SɄYEDj˗SŎÍqÈÍjVICśY ĳjĳ!ËF,çEXTƌEDbAI",
    "S%ĳ!ƂT л ȫ(R=F,ǆÝÈŜ<ĳ źaƖɊS ę_Ŝźp.ҙźjĭ_Ŝźp.ҙźÚ_Ŝȯĳ źg.ҙȯĳ źaƖɊS ǄŎŜźpÈŜźjǐŎŜźpÈŜźÚUPŜȯĳ źgÈŜȯĳ źgǼaDESKǏ",
    "ʗUTÞKEYBOğ(MOUSEaƕNE:RK%ʗUTǆaPǽÐbOCKET CALCЍśÚHğ åLL FLOPPYǊSKÝHğ åLL FLOPPYǊSKaГ åLL FLOPPYǊSKaTAPE ɁżD",
    "GEaWIR%KEYBOğa$ƬTTŝMOUSEa:ƬTTŝMOUSEb[ƬTTŝMOUSEbȪKȠaƥɪON]ʗUTÞHğǊSKaSCRĔaPǽʍIƤaFAX IƤaOPTIC]DISC IƤaDOCUȆ!",
    "TEXTs(PICTUREoPICTUREaFȨE!PICTURElTILESlĜXÚFȴÞFȴÞĖFȴÞCğ źǊVIDǆfFIťɌaFIťCABǡTaEMPTYĐEk PƙnDaŊEe PƙhDaEMPё",
    "DOCUȆgPƙkSaDOCUȆaPƙeSaWȌEBASKETaSPIR]ŊEǱDhCALƌARǱDaDESKǏWĦOWaȶIMIZEbAXIMIZEaßLAPaCѷ Á(<ʀÇÉSbƷEĘĹXƭCǅSE F",
    "ONT SIZEæDECǅSE FONT SIZEæʗıSĩaƥKEYaROLLED-ďNEWSPAPÞPƙ!ſTEXTaSTOCK ŗRTaDAGGçKNIFEaLIPSaSPEAK=ŷ ēSILȘETTE",
    "aƕRAYS*lȏl_lÁa<SPEECHƬBBĴ.SPEECHƬBBĴ: SPEECHƬBBLESb[ SPEECHƬBBLESa<TȘGHTƬBBĴ.TȘGHTƬBBĴ<^ERƬBBĴ.^ERƬBBĴMO",
    "ODƬBBĴíN=MOODƬBBLEoaȠOT Ɍ!ȠOThɡXhɌ!ɡXjLD ɡXjX!BƥɡXaưùCKÆaȠOT Ɍ!BƥùCKaWORLDƨPaMн FUJIaTOKYOʺWÞȬTUEàLIBERT",
    "YbILȘETTEàJAPANaMOYAIaGǽN=Ёn!SѨЅaɘTǌSàJOYaSѨɘĖMǀ+c(SѨЅ+hCƥSWƸ+hTѺLY-ȺЅsHALOtORNSaWINK˦SѨɘSѨЅaЁǔVOUR=ǳICI",
    "OUS FOODaRELIEV%ŅSѨɘǼ-?P%ЅsSŪLǭESdRK˦˯]ŅEXPıSĩЫŅUNAMUS%ŅɘCƥSWƸaPENS| ŅƤFUS%Ёeū%ŅKISS˦Ё THROW=A KISSaKISS",
    "=ɘSѨЅsȺЅaɘST˿-Ʃ TĥUȩ(WINK=EYE+fTѺLY-ȺЅaDISAPǶŅWORRI%Ņ^RY ŅPƩ˦CRY˦ɪEVER˦ɘLɮàżUMPHaDISAPǶBUT RELIEV%ŅFROWN",
    "=ɘĖMǀa^Uã%ŅFǌFUL ŅWǌY ŅSLEEPY ŅTIR%ŅGRȍC˦LOUDLY CRY˦ɘĖMǀaHUSH%ŅɘĖMǀ(CƥSWƸfSCǅM=ēFǌaȌONã%ŅFLUSH%ŅSLEEP˦DI",
    "ZZY ŅЁ ʁƩ Mǀj ʵC]MASKaGǽN=CȧɘSѨЅaCȧɘTǌSàJOYaSѨCȧɘĖMǀwǼ-?P%ЅaCȧɘWRY SMIĴKISS=CȧɘȺЅaPƩ=CȧŅCRY=CȧŅWǌY CȧŅSí",
    "LY FROWN=ЁjSɕ˦UPƖ-ŭŅɘROLL=ЅkNO GOOD GţUREkOK GţUREaɪŝBOW=DEEPLYaSEE-NO-EVIL ŻKEYaHǌ-NO-EVIL ŻKEYaSPEAK-N",
    "O-EVIL ŻKEYaHAPPY ɪŝRAIS=$ ĳaɪŝRAIS=BOTH ĳS ēCŬBR÷hFROWN,hʁ PƩ=ЁmFȴ%ĳSaˎŜ˒aSǀ ɆŜ˒aЪŜ˒aɲŜ˒aèˎŜ˒hSǀ ɆŜ˒hЪŜ",
    "˒hɲŜ˒aˎŜVǡ ˒aSǀ ɆŜVǡ ˒aЪŜVǡ ˒aɲŜVǡ ˒ƆˎŜVǡ ˒gSǀ ɆŜVǡ ˒gЪŜVǡ ˒gɲŜVǡ ˒aˎŜBUDaSǀ ɆŜBUDaЪŜBUDaɲŜBUDƆˎŜBUDgSǀ ",
    "ɆŜBUDgЪŜBUDgɲŜBUDbOLŀQUILT Ãǜ+c ēĭÃaSOLID QUILT Ãǜ+b ēĭÃœROCKETǈROCKETaňROCKETańROCKETaɡLȸETǜƆɡLȸETǜaLȸĖ",
    "ETǜƆLȸĖETǜgAMɪûǜaSWê AMɪûǜbANS-SERIF ş>èĤ ɨǜyĤ ɨǜrŀ>Ĥ ɨǜƆINÐROB^ǜa˝ĬÐROB^ǜƆ˝ĬÐROB^ǜaɬşʽlЌʽaùCKçBOğaЌùCKç",
    "BOğbOCKETaHELICOPTÞSTEAM LOCOMOT|aRAILɊ ɁaHIGH-SPE%TRñq!ѯ NOSEaTRñaMEȵaưRAILaST÷aTȨe ɁaBUSaONCOM,ƬSaȵLLE",
    "YBUSaBUS ɗaȶIBUSaAMBULƷEaFIRE ƚǡaPOLɿ ɁaONCOM=POLɿ ɁaTAXIaONCOM,ŲXIaAUTOMOBIĴONCOM=AUTOMOBIĴžRE÷]VEHICĴǳ",
    "IɬTR˿aARTICЍT%LORRYaTȪśaMOʜAILcUNTAēRAILɊaSUSPENSIŝRAILɊaMнAēCABLEɊaAERI]TȨɊaëPaROWBOATaSPEEDBOATaĞĶFFîí",
    "aĚĶFFîíaƤʏUCȿaPOLɿ ɁS REVOLV=íaˤFȐǦǇTaDOORaNO ØRYÎSMOK,æNO SMOK,æPUT LITʍēITS ɄCEæDOĐ LITÐæPOTAфWAÐæNON-",
    "POTAфWAÐæBICYCĴNO BICYCLESaBICYCLISTaMнAēBICYCLISTaPEDESżANaNO PEDESżANSaǻLDRķĢ,aMENSæWOMENSæıȵOMaBABYæT",
    "OILETaWAʍЃETaɔWÞBATHeTUBaPǭPORT ƤȵLaCUSTOMSaBAGGƙ CLAIMa<LUGGƙaô!Rū%ǷSaƜHIBITEDÎſINƃAĹSOURCEaBOYSæGIRLSæ",
    "COUCH(áPaSLEEP=ACCOMMOD÷bHOPP=BAGSaBELLHOP BELLcDaɄCEàWORëPaOCTɷALÎɔPP=ȵLLEYbTUPAaPAGODAaHĦUɽMPLEbUTaŬVA",
    "śŌ6DDaɄYGRū SLɢaWЏaR,ƬOYaHAMMER(WRENCHaëELDaOIL DRUMaMOśɊaRAILɊ TȪKaMOś BOATɹƎɕǰRY ǃɄNEmǃɄNEm/ǃɄNEa/ǃɄNE",
    "aʜÌȌƎǃɄNEaǃɄNE DEƂTUREjARRIV,Ō6F0aSƝLLITEaONCOM=FIRE ƚǡaDIESEL LOCOMOT|aPǭƚçëPaSCOOTÞMOś SCOOTÞCANOEaSLE",
    "DaFLY,ǔUCÞSKƝBOğaAUTO Rŏ?WaPŏďTR˿aROLLçSKƝŌ7ěALùMIC]ǢȅQUINTESSENCEwǃwFIREwǌTHwWAÐwAQUAʹTIS+a REGIA+g-2+b",
    "VǰE+g-2wVǡǫ+d-2+e3wSULFURwPHILOS˹ǆ SULFURwĭSULFURwMERCURY ǥLIMƝ+n-2+o3wCIĿĝwSALTwƯREwVIżOL+d-2wROCKǔLT+f",
    "-2wGȴwSILVERwIRŝORE+e-2wCROCUSàIŦwREGULUSàIŦwCOPPçOREwIŦ-COPPçOREwǥLIMƝàCOPġwCROCUSàCOPġ+m-2xOPPçдŻIƝwSA",
    "LTàCOPPçдŻIƝxUBLIMƝųǔLTàCOPġwVERDIGɀwTēOREwLEAD OREwдŻY OREwǥLIMƝàдŻYxALTàдŻYxUBLIMƝųǔLTàдŻYwVǡǫàдŻYwREG",
    "ULUSàдŻY+p-2+d+d-2+e3+e4wALKũ+c-2wMARCASITEwSAL-AMŻIACwARSENICwǅLǫ+d-2wAURIPIGȆwBISMUTH OREwTARTAR+c-2wQ",
    "Uŏ LŒwBORAX+b-2+c3wALUMwOILwSPIRITwTINCTUREwGUMwWAXwPOWDERwCALXwTUTTYwCAPUT MORTUUMwSCEPÐàJOVEwCADUCEUSw",
    "żDØwǤR%żDØwLODţ$wSOAPwURǡwǮSE DŪwAåSwPOT AåSwBRŏwPOWDER%BRŏwAMALGAMwSĶTѸSUPçSĶTUM+r-2xUBLIM÷wPžIPITƝwDIS",
    "TĎzSOLVE+e-2wPURIFYyTREFACŖwCRUCIBќe-2+f3+f4+f5wŴMBICwBATHųƨRY+eVAPOURSwREśTwȘRwˊwDAY-ˊwŻTHwŐDȨ+bOUNCEŌ7",
    "80Ú_ƎISOSCŬS .ôgUPƎISOSCŬS .ôg˂ISOSCŬS .ôgÈƎISOSCŬS .ôgSíLY /ÇaŁBƥęÇaBƥęÇƆęÇaɬşęÇaԀşęÇÝȗЦ=ĭ/ÇaRūŲRGETÚTI",
    "NY ÃgSíLY /ÃaưęÃaŁęÃaBƥęÃƆęÃaɬşęÃaԀşęÃÝÃ Ц=ĭɬ/Ã+eŁÃaÃŲRGETÚTINY ǉgɬ/ǉgŁ/ǉÝǉ Ц=ĭɬ/ǉ+fŁǉaǉŲRGETÚTINY Ҁgɬ/Ҁ",
    "gŁ/ҀÝҀ Ц=ĭ/ҀaTHēʳĢaưʳĢaŁʳĢaBƥʳĢaɬBƥʳĢfşʳĢaԀşʳĢaTHINҴaíҴaʵUMҴaBȴҴaúҴaɬúҴaԀúҴaưН˄ŁН˄BƥН˄şН˄ɬşН˄ԀşН˄ưÕ ˄ŁÕ ",
    "˄BƥÕ ˄şÕ ˄ɬşÕ ˄ԀşÕ ˄ưÅ ˄ŁÅ ˄BƥÅ ˄şÅ ˄ɬşÅ ˄ưƕǶʥaŁƕǶʥaƕǶʥaŁƕǶӒư@ ǶʥaŁ@ Ƕʥa@ ǶʥaŁ@ ǶӒЌư@ ǶӒưНǶʥƆНǶʥaŁÕ ǶʥƆÕ",
    " ǶʥaÕ ǶӒŁÅ ǶʥƆÅ ǶʥaɬşÅ ǶʥƆÅ ǶӒưј ǶʥƆј ǶʥvӒſôaЗ| ſôaſÃaЗ| ſÃŌ7E0aȢOR^E ÇgYELŀÇgGREķÇgPURPťÇgBROWN ÇgR%ÃgB",
    "LUE ÃgOR^E ÃgYELŀÃgGREķÃgPURPťÃgBROWN ÃŌ7F0ƆɶŌ8ěƍ!/˃ɹʚ!/˃aâ!/˃aʱ!/˃aƍ!Ł˃ɹʚ!Ł˃aâ!Ł˃aʱ!Ł˃aƍ!Ȣ˃ɹʚ!Ȣ˃aâ!Ȣ˃aʱ",
    "!Ȣ˃Ō810aƍ!/ˇɹʚ!/ˇaâ!/ˇaʱ!/ˇaƍ!ˇɹʚ!ˇaâ!ˇaʱ!ˇƆƍ!ˇgUPʚ!ˇgâ!ˇgʱ!ˇgƍ!ȢˇgUPʚ!Ȣˇgâ!Ȣˇgʱ!ȢˇœɎNÛ ?FTǈɎNÛ ?FTaňɎNÛ",
    " ?FTańɎNÛ ?FTœɎŁ?FTǈɎŁ?FTaňɎŁ?FTańɎŁ?FTœɎBƥ?FTǈɎBƥ?FTaňɎBƥ?FTańɎBƥ?FTœɎş?FTǈɎş?FTaňɎş?FTańɎş?FTœɎɬş?FTǈɎ",
    "ɬş?FTaňɎɬş?FTańɎɬş?FTœF,ER-ǇTÉǈF,ER-ǇTʪF,ER-ǇTóńF,ER-ǇTÉœÃDÉǈÃDʪÃDóńÃDÉœʗıS%ÛǈʗıSEDʪʗıSEDóńʗıS%ÛœşʗıS%Ûǈ",
    "şʗıSEDʪşʗıSEDóńşʗıS%ÛœúÉǈúʪúóńúÉŌ850œ˝Éǈ˝ʪ˝óń˝óˎ ˝ÉgEȌ ˝óɲ ˝ÉgɆ ˝ó<.˝óďŭ˝ÉŌ860aWɢь%˭íǞmUP˛íǞmňíǞmńíǞmˎ í",
    "ǞsEȌ íǞmɲ íǞsɆ íǞm_ŇǞmUPŇǞmÁŇǞmÈŇǞmˎǞsEȌǞmɲǞsɆǞm˭ʵUMǞmUP˛ʵUMǞmňʵUMǞmńʵUMǞmˎ ʵUMǞsEȌ ʵUMǞmɲ ʵUMǞsɆ ʵUMǞm˭",
    "úǞmUP˛úǞmňúǞmńúǞmˎ úǞsEȌ úǞmɲ úǞsɆ úǞm˭ɬúǞmUP˛ɬúǞmňɬúǞmńɬúǞmˎ ɬúǞsEȌ ɬúǞmɲ ɬúǞsɆ ɬúǞŌ890œ˃ǈ˃aň˃ań˃œǄÉ ʁē",
    "˃ǈǄÉ ʁē˃aňǄÉ ʁē˃ańǄÉ ʁē˃aƍ!ŊCH%Ǔɹʚ!ŊCH%Ǔaâ!ŊCH%Ǔaʱ!ŊCH%ǓƆÛ ?FT WIDTH $y: ˞Sy$ ĸ+c˞œBOTTOM-?D%Ǆʪɴ?DҧÛœǏ?D",
    "%ǄʪǏ?DҧÛœ_-?D%ǄʪÁ-?DҧÛœÁ-?D%Ǆʪ_-?DҧÛœȯ-TILT%ЙÛaňȯ-TILT%ЙÛœFŦT-TILT%ЙÛaňFŦT-TILT%ЙÛÝÛ ?FT WIDTH $y: ˞SŌ8B",
    "0aÛŜUP˛THķˎpňTHķɥ=Sǀ ɆŌ9ěſĢ ƃEE!@ɑ+aƅua<ŐÇ!@ɑwɍxWOɑwƛqaÈWğ FAC=ĊqŊCH%ĊqĊǗqŊCH%ĊǗaPINCH%F,ǆÝǼaBROWN ǼaPIN",
    "CH=ĳaZIPġ-Mǀ ŅM$Y-Mǀ ŅɘÌRMOMETÞNERD ŅTHINK˦ɘŷ-BûƙaROBOT ŅHUGG˦ÄOF Ì ƫSaCĺȮ ĳa˱ȯàĳa_-FAC=FISTaÁ-FAC=FISTa",
    "ĳ?KEe!ź(ËF,ǆ ĢEDaI LOVE YOU ĳÎɘCOWBOY HATaCǒN ŅNAUSƸ%ŅROLL,ǦÌ FȀR LAUGH,aDROOL˦LY˦ЁǱLMaSNEEZ˦ɘ$ EYEBROW ",
    "RAISEDaGǽN=ɘǤ Ѕt$ ǩ($ /EYEaɘF,çCß=ȺLIPSaSERIOUS Ё ʁċS Cß=MǀbѨɘSѨЅ(ĳ Cß=MǀaɘĖMǀ VOMIT,aɔCK%ɘEXPLOD=ŷaPREG",
    "NƦ WOƣaBREȌ-FEED,aPALMSŎʺGïÞSELFIEaPǽCEaMĜēTUXEDObOTHçCHɀTMASaSHRUGaɪŝDO=ɁTWЏaJUGGL,aFENCÞMODERN PØATHLO",
    "NaWRţLǆbAʍPOLOaĳȠaDIV,ƨSKaWILT%FǒÞDRUM!DRUMSTŏSaCLINK=GLǭESaTUMBLçGLǭaSPǾaGO]NETaRIFĴFIRST ɄCEȮDALaSEƤD ",
    "ɄCEȮDALa˞ ɄCEȮDALaɌ=GLOVEaMARTI]ARTS UNIƃaɓ=ST$aLAĢE STŏ(ȠaГȠaFLY,ǊSCaCROISSƦaAVOCADOaCUCUMBÞBAƤaPOTATOa",
    "ɁROTaBAGUETTE BǅDaGREķSŞDa?LǒǱNàFOODbTUFF%FLATBǅDaEGGaGLǭàɕKaPEANUTSaKIWIFRUITaPƷAKESaDUMPL,aʹTUNE CɮIEa",
    "TAKEƩ ɌaCHOPSTŏSaBOWL!SPǾaCUP!SĶWbOƤUTaBROCCOLIaPIEbRETZELaCUTàMƸaSûWICHaCANN%FOODa˒Y GRĔaM^ObOŝCAKEaBƙL",
    "aSѨɘSѨЅ(ƕǼSaYAWN˦SѨɘTǌaɘƂёƫ(ƂёHATkUN× Ѕ(WAVY MǀaßHƸ%ŅFREEZ˦NINJAaDISGUIS%ŅЁ Hȴ=ȯ TǌSfʁ PLEAD=ЅaSARIaLAB ",
    "COATaGOGGLESaHIK=BOOTaFLȧɔEaCRABaLIŝŅSCORPĩaTURKEYaUNICORN ŅEAGĴD˿aBATa?RKaOWLaFOX ŅBUTÐFLYaDEÞGORIĘaLIZ",
    "ğaRHINOCEROSaSHRIMPbQUIDaGIRAFFE ŅZEBRA ŅHEDGEHOGaSAUROPODaT-REXaCRŏETaK^AROOaLáAaPEACOCKaHIPPOPOTAMUSaƂ",
    "ROTaȪCǾaLOBʶaMOSQUITObICROBEaBADGÞSWANaMAMMOTHaDODOaSLOTHaOTÐbR^UȭaSKUNKaFá,OaOYʶaBEAVERbISONaSEALaGUɢ D",
    "OGaƜB=CANEaEMOJI ʗ$NT R%HǃqɓY HǃqBALDqęHǃaB$aLEGaFOOTaTOOTHaSUġHEROfVĎñbAFEёVţaǌ!Hǌ=AIDaMOśIZ%WЏCHǃbANU]",
    "WЏCHǃbEŗNIC]ARMlLEGaùESE WEDGEbUPCAKEaSALT ?KÞBEVERƙ ɌaǫLICaONĩaFŞFELaWAFFĴBUTTÞMƝ DǽKaɿ CUBEaBUBфTEAaȵL",
    "LaSTû=ɪONaKNEEL=ɪONaDEAF ɪONaɘŻOCĴADULTaǻLDaȴçADULTaBEğ%ɪONaɪON!ŷSɁFhēSTEAMYȊOMhCLIMB,hēLOTUS ǇIŖaMƙaFǃY",
    "aVAMPIREaMERɪONaELFaGENIEaZOMBIEaBRñaOR^E ǼaBĎ%CAPaSɁFaGLOVESaCOATaSOCKSaR%GIFT ҼaFIžȪKÞJIGSAW PUZZťPIEC",
    "EaTţ TUBEaPEż DãaDNA >HELIXaʗǭaABACUSaFIRE EXT,UãÞTOOLɌaBRŏaMAGNETaLUGGƙbOĹBOTTĴSPOOLàTHǅDaȠàYARNaSAFEёP",
    "INaTEDDY BǌaBROOMbASKETaROLLųǱPÞĝàSOAPaSPĥEažEIPTaNAZǹAMULETbEUTR]˾K,oвoRɮoѳoKˊoPAWNÝғ˼-F|ҍÚғ˼-F|ҍa˯]ғ˼-",
    "F|ҍÝ˾K,ˉ˕mвˉ˕mRɮˉ˕mѳˉ˕mKˊˉ˕mPAWNˉ˕Ú˾K,ˉ˕mвˉ˕mRɮˉ˕mѳˉ˕mKˊˉ˕mPAWNˉ˕a˯]˾K,ˉ˕oвˉ˕oRɮˉ˕oѳˉ˕oKˊˉ˕oPAWNˉ˕ÝғȈ TǙ",
    "-F|ҍÚғȈ TǙ-F|ҍa˯]ғȈ TǙ-F|ҍÝ˾èK,tвtRɮtѳtKˊtPAWNÚ˾èK,tвtRɮtѳtKˊtPAWNa˯]˾èK,vвvRɮvѳvKˊvPAWNÝғԝTƐ-F|ҍÚғԝTƐ-F",
    "|ҍa˯]ғԝTƐ-F|ҍÝ˾K,ЯmвЯmRɮЯmѳЯmKˊЯmPAWNЯÚ˾K,ЯmвЯmRɮЯmѳЯmKˊЯmPAWNЯa˯]˾K,ЯoвЯoRɮЯoѳЯoKˊЯoPAWNЯÝғT[ÿ FIFŘҍÚғT",
    "[ÿ FIFŘҍa˯]ғT[ÿ FIFŘҍÝ˾EQUIHOPġÚ˾EQUIHOPPÞ˯]˾EQUIHOPġÝ˾EQUIHOPġˉ˕Ú˾EQUIHOPġˉ˕a˯]˾EQUIHOPġˉ˕Ý˾Kˊ-вtRɮtѳÚ˾",
    "Kˊ-вtRɮtѳŌA60aXI^QI R%GENERALmMɼǽmŬPHƦmǮSEmŗRIOTnANNONmSȴIERiĭGENERALoMɼǽoŬPHƦoǮSEoŗRIOTpANNONoSȴIERŌA70",
    "aȠET ɔESa$-PIECE SWIMSUITaBRIEFSaSǮTSaTHĥ SɼLŌA78aDROPàBȀDaADHES| BûƙaSTïOSCOPEaX-RAYaCRUTCHŌA80aYO-YOaK",
    "ITEaPAȪHUTEaBOOMER^aMAGîWûaPINATAaNţ=DOLLSŌA90aR,%ɄNETaCHǃaRAZORaAXEaDIYA áPaBANJOaɕǰRY HELMETaACCORDĩaā",
    "DRUMaCOINbARPØRYǔWaSCREWDR|RaLADDÞĊaMIRRORaWĦOWaPLŪÞSEW=NEEDĴKŊaB˿ETaMOUSE ĶPaTOOTHBRUSHaŷST$aɄCğaROCKaM",
    "IRROR ȠaIDØIFɺĹCğaŀBATÐYaHAMSAŌAB0aFLYaWORMaBEETĴCOCKROACHaPOTT%PLƦaʕDaFƸHÞLOTUSaCORALaEMPёNţaNţ!EGGSŌAC",
    "0aANATOMIC]ǼaLŪSaPEOPťHUGG,bREGNƦ ƣjɪONbǆON!CROWNŌAD0aBLUEBERRIESbELL PEPPÞOL|aFLATBǅDaTAMAĴFONDUEaTEAPO",
    "TaPOUR=LIQUIDaBEANSaJARŌAE0aMELT˦SALUT˦ɘĖЅ(ĳÖMǀkPEEK=EYEkȃMǀaȽȡŅBIT=LIPbUBBLESŌAF0aĳ!ĲF,ER(ǿĢEDaňĳœĳaPAL",
    "M ŭĳfďĳaźŜȧÌ VIEWÞǼ ĳSŌBěԞ SEXTƦ-1o2o12o3o13o23o123o4o14o24o124o34o134o234o1234o5o15o25o125o35o235o1235o",
    "45o145o245o1245o345o1345o2345o12345o6o16o26o126o36o136o236o1236o46o146p246o346o1346o2346o12346o56o156o25",
    "6o1256o356o1356o2356o12356oǛo1Ǜo2Ǜo12Ǜo3Ǜo13Ǜo23Ǜaì_Ƀ ȃìË˵Ɵ++bÁ+ˬË˵Ɵ++bÁ+g˵Ɵg.Ԟ ȃĻËўĻƟ++cÁ+bìËўĻƟ++cÁ+hў",
    "ĻƟ+hËўĻʢ+h˴ìʢ+h˵ʢ+h˴Ļʢ+hўĻʢ+h˴ĻÁg_Ƀ ȃĻ˴Ļʢ+gўĻʢ+g˴ìʢ+g˵ʢ+g˴ìÁ+gË˵ʢˬ.Ԟ ȃìË˵Ɵ++cÁ+bĻË˵Ɵ++cÁ+h˵Ɵg_Ƀ ȃĻËўĻƟ++",
    "bÁ+aìËўĻƟ++bÁ+gўĻƟ+gËўĻʢ+g˴ìʢ+g˵ʢ+g˴Ļʢ+gўĻʢ+g˴ĻÁg.Ԟ ȃĻ˴Ļʢ+hўĻʢ+h˴ìʢ+h˵ʢ+h˴ìÁ+hË˵ʢgû Á(ìˤƕȇSɃa_(ǒER(.ˤƕȇS",
    "Ƀɹġ(_(ìˤƕȇSɃa_(UPġ(.ˤƕȇSɃfˤ$ ȇɃˬˤ$ ȇɃa.ˤ$ ȇɃaìˤ$ ȇɃaĚѤ-2+a3+a4+a5+a6+a7aĞѤ-Ԝ+c6+c7a_(ìѤjĻѤaÁ(ĻѤkìѤɹġ(ìѤa",
    "ĞѤ-1358ˬ$ ȇɃgƕҗgНҗgƕȇSɃgS× җa.$ ȇɃgƕҗgНҗgƕȇSɃgS× җa<ŐŁ?DEa.ŐŁ?DEˬŐŁ?DEaìŐŁ?DEƭѶŁ?DEˬĸɃ(ìĸĬѶŁ?DElINѶŁ?DE(",
    "ìĸɃŌB94a<ĸĬѶŁ?DE(.ĸɃaùCKçBOğ FĎƭѶùCKçBOğ FĎƆĞFĎˬ˵.FĎgÁ˘ì<FĎgû ìˤĸɃa_(.ˤĸɃˬ<ˤŁ?DEg.ˤŁ?DEaì.ˤŁ?DEg<ˤŁ?DEaɌ",
    " DRAW,S ưȃĻ˴Ë_+zÁ+cË˵Ɵ+jÁ˘ìƟ+cĻ˴Ë˵Ɵ+zÁ˘ìƟ+cË˵˴ʢ+rĻ˴ʢ+cĻ˴Ë_(ʢ˘ìƟ+zÁ(Ë˵Ɵ++fTO ì˴Ë_+z˵˴ʢ+cËўĻ˴ʢ˘ìƟ+jÁ˘Ļ˴Ë˵Ɵ",
    "+cǉtƢ!ȻaÛŷ-?P%ОERƭѶùCKÆa<ŐRUNN=ƣa.ŐRUNN=ƣƭѶʱ!TIP _Ňaƍ(UPġ(ìѤaâ(UPġ(ìѤaʱ(.Ѥɹʚ(.Ѥa<ŐFȴÞ.ŐFȴÞVOID%ʳĢa.ĖÃDŨa",
    "З| ȃĢsʢ˘ìƟsǉÝúҴ!Rū%ǷSa<˞ ę.ҙźaË˞ ę.ҙźa.˞ ę.ҙźaЗ| ÃD ʣaSTŏ FIGUREm!ARMS RAISEDnLEAN=_vÁnʁ DıSÝUPƎùVŦŌBF0a",
    "SEGȆ%čq$q:r[q@Ӥ;E0ʂaL^UƙŲG;E0020aTAG ʔe˶eɨeˆERÍeDOĘRÍeġеÍeAMɪûfӄe<ƺe.ƺe˧eǲÍeĤeз-ˑeƠeʽečk$k:l[k@ԇeƑeʀƑeĮÍ",
    "eɶeĵÍeʣeCOMMERCI]ATeŠŋAzBzCzDzEzFzGzHzIzJzKzLzMzNzOzPzQzRzSzTzUzVzWzXzYzZfEFT ɩeЌʽfѺ ɩeАǵeŀäeöǵeŠ/&AxBxC",
    "xDxExFxGxHxIxJxKxLxMxNxOxPxQxRxSxTxUxVxWxXxYxZfEFT ˻eĚäe.˻eÒaCƷELŲG;E01ěʐĹSŬCś-17u8u9t20Ҷ30Ҷ40Ҷ50Ҷ60Ҷ70Ҷ",
    "80Ҷ90Ҷ10ѱ1ѱ2ѱ3ѱ4ѱ5ѱ6ѱ7ѱ8ѱ90vɻӊt20ѱ1ѱ2ѱ3ѱ4ѱ50vɻ"]

end ChangeReview.Text
